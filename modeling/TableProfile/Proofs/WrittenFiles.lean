import Mathlib.Data.List.Basic
import TableProfile.Storage.FileTree

/-!
# A file that is written is read back

To write a file is to follow its path up to the folder that it lies in, and to put an
entry under one more name. To read it is to follow the whole path. That the second finds
what the first has put there takes two things. The folder must be reached in the new tree
as it was in the old one, although the path may go up and down again: the entry that was
put was no folder before, so the way to the folder did not lead through it
(`follow_put`). And the last step of the path must be the name, which it is unless the
path ends with a slash or with dots (`eq_concat_of_splitLast`); no file is written then.

Nothing else in the tree changes (`writes_of_write`).
-/

namespace TableProfile.Storage

/-- A path of one character is a single step, unless the character is the slash. -/
theorem pathSteps_of_short {path : String} (hslash : (String.Pos.Raw.get path 0 == '/') = false)
    (hsome : String.Pos.Raw.atEnd path 0 = false)
    (hlast : String.Pos.Raw.atEnd path (String.Pos.Raw.next path 0) = true)
    (hwhole : String.Pos.Raw.extract path 0 (String.Pos.Raw.next path 0) = path) :
    pathSteps path = [path] := by
  have hother : ¬ (String.Pos.Raw.get path 0 == String.Pos.Raw.get "/" 0) = true := by
    intro h
    cases hslash.symm.trans h
  have hstart : String.Pos.Raw.unoffsetBy 0 0 = 0 := rfl
  unfold pathSteps String.splitOn
  rw [if_neg (by decide +kernel), String.splitOnAux, if_neg (by simp [hsome]), if_neg hother,
    String.splitOnAux, hstart, if_pos hlast, hwhole]
  rfl

namespace FileTree

variable {tree after : FileTree} {names target : Names} {entry put : Entry}
  {path : String} {content : List UInt8}

/-- **A path to a file ends with its name**, which is a name like any other. -/
theorem eq_concat_of_splitLast {steps above : List String} {name : String}
    (h : splitLast steps = (above, some name)) :
    steps = above ++ [name] ∧ name ≠ "" ∧ name ≠ "." ∧ name ≠ ".." := by
  unfold splitLast at h
  split at h
  · cases h
  · cases h
  · rename_i last before hempty hreverse
    obtain ⟨rfl, hname⟩ := Prod.mk.inj h
    split at hname
    · cases hname
    · rename_i hdots
      obtain rfl := Option.some.inj hname
      have hsteps : steps = before.reverse ++ [last] := by
        rw [← List.reverse_cons, ← hreverse, List.reverse_reverse]
      refine ⟨hsteps, ?_, fun h => hdots (.inl h), fun h => hdots (.inr h)⟩
      rintro rfl
      exact hempty rfl

/-! ## Entries -/

theorem entry?_put_self (hne : target ≠ []) : entry? (tree.put target put) target = some put := by
  unfold FileTree.put entry?
  rw [if_neg hne]
  dsimp only
  rw [List.find?_cons_of_pos (by simp)]
  rfl

theorem entry?_put_of_ne (hne : names ≠ target) :
    entry? (tree.put target put) names = tree.entry? names := by
  unfold FileTree.put entry?
  by_cases htop : names = []
  · rw [if_pos htop, if_pos htop]
  · rw [if_neg htop, if_neg htop, List.find?_cons_of_neg (by simpa using hne.symm),
      List.find?_filter]
    refine congrArg (Option.map _) (congrArg (List.find? · tree.entries) (funext fun held => ?_))
    by_cases hheld : held.1 = names
    · simp [hheld, hne]
    · simp [hheld]

/-! ## Steps -/

/-- **Steps are followed one after the other.** -/
theorem follow_append (steps more : List String) :
    tree.follow names entry (steps ++ more)
      = (tree.follow names entry steps).bind fun reached =>
          tree.follow reached.1 reached.2 more := by
  induction steps generalizing names entry with
  | nil => rfl
  | cons step steps ih =>
    cases entry with
    | file content => rfl
    | folder =>
      rw [List.cons_append, follow, follow]
      split
      · exact ih
      · split
        · exact ih
        · dsimp only
          split
          · exact ih
          · rfl

/-- A step to a name goes to the entry of that name. -/
theorem follow_folder_name {name : String} {found : Entry}
    (named : name ≠ "" ∧ name ≠ "." ∧ name ≠ "..")
    (h : tree.entry? (names ++ [name]) = some found) :
    tree.follow names .folder [name] = .ok (names ++ [name], found) := by
  rw [follow, if_neg fun hor => hor.elim named.1 named.2.1, if_neg named.2.2]
  dsimp only
  rw [h]
  rfl

/-- **The way to a folder** does not lead through what is no folder, so another entry there
does not bar it. -/
theorem follow_put (hold : tree.entry? target ≠ some .folder) {reached : Names}
    {steps : List String}
    (h : tree.follow names .folder steps = .ok (reached, .folder)) :
    (tree.put target put).follow names .folder steps = .ok (reached, .folder) := by
  induction steps generalizing names with
  | nil => exact h
  | cons step steps ih =>
    rw [follow] at h ⊢
    split at h
    · rename_i hstays
      rw [if_pos hstays]
      exact ih h
    · rename_i hmoves
      rw [if_neg hmoves]
      split at h
      · rename_i hup
        rw [if_pos hup]
        exact ih h
      · rename_i hdown
        rw [if_neg hdown]
        dsimp only at h ⊢
        split at h
        · rename_i found hfound
          -- a file on the way is the end of it
          have hfolder : found = .folder := by
            cases found with
            | folder => rfl
            | file content =>
              cases steps with
              | nil => cases h
              | cons next steps => cases h
          subst hfolder
          have hne : names ++ [step] ≠ target := by
            rintro rfl
            exact hold hfound
          rw [entry?_put_of_ne hne, hfound]
          exact ih h
        · cases h

/-! ## Files -/

/-- **A tree in which one file was written.** -/
structure Writes (tree : FileTree) (path : String) (content : List UInt8) (after : FileTree) :
    Prop where
  /-- The file is read back. -/
  read : after.read path = .ok content
  /-- Everything else is as it was. -/
  others : ∃ written, after.entry? written = some (.file content)
    ∧ ∀ names, names ≠ written → after.entry? names = tree.entry? names
  /-- The current folder is what it was. -/
  home : after.home = tree.home

/-- **To write a file** is to put it under its name in a folder, where no folder was. -/
theorem exists_of_write (h : tree.write path content = .ok after) :
    hasZero path = false ∧ path.isEmpty = false ∧ ∃ above name folder,
      splitLast (pathSteps path) = (above, some name)
        ∧ tree.follow (tree.origin path) .folder above = .ok (folder, .folder)
        ∧ tree.entry? (folder ++ [name]) ≠ some .folder
        ∧ after = tree.put (folder ++ [name]) (.file content) := by
  unfold write at h
  split at h
  · cases h
  rename_i hzero
  split at h
  · cases h
  rename_i hempty
  refine ⟨Bool.eq_false_iff.mpr hzero, Bool.eq_false_iff.mpr hempty, ?_⟩
  rcases hsplit : splitLast (pathSteps path) with ⟨above, last⟩
  rw [hsplit] at h
  dsimp only at h
  split at h
  · cases h
  · cases h
  rename_i folder hfolder
  cases last with
  | none => cases h
  | some name =>
    refine ⟨above, name, folder, rfl, hfolder, ?_⟩
    dsimp only at h
    split at h
    · cases h
    · rename_i old hold
      exact ⟨by simp [hold], (Except.ok.inj h).symm⟩
    · rename_i hnone
      split at h
      · cases h
      · exact ⟨by simp [hnone], (Except.ok.inj h).symm⟩

/-- **A file that is written is read back**, and nothing else has changed. -/
theorem writes_of_write (h : tree.write path content = .ok after) :
    tree.Writes path content after := by
  obtain ⟨hzero, hempty, above, name, folder, hsplit, hfolder, hold, rfl⟩ := exists_of_write h
  obtain ⟨hsteps, named⟩ := eq_concat_of_splitLast hsplit
  have hself : entry? (tree.put (folder ++ [name]) (.file content)) (folder ++ [name])
      = some (.file content) := entry?_put_self (by simp)
  have hresolve : (tree.put (folder ++ [name]) (.file content)).resolve path
      = .ok (folder ++ [name], .file content) := by
    unfold resolve
    rw [if_neg (Bool.eq_false_iff.mp hzero), if_neg (Bool.eq_false_iff.mp hempty), hsteps,
      follow_append]
    have hreach : (tree.put (folder ++ [name]) (.file content)).follow (tree.origin path)
        .folder above = .ok (folder, .folder) := follow_put hold hfolder
    show ((tree.put _ _).follow (tree.origin path) .folder above).bind _ = _
    rw [hreach]
    exact follow_folder_name named hself
  refine ⟨?_, ⟨folder ++ [name], hself, fun _ => entry?_put_of_ne⟩, rfl⟩
  unfold FileTree.read
  rw [hresolve]

/-- **Whether a file can be written** does not depend on what is written. -/
theorem isOk_write (tree : FileTree) (path : String) (content content' : List UInt8) :
    (tree.write path content).isOk = (tree.write path content').isOk := by
  unfold write
  split
  · rfl
  split
  · rfl
  rcases splitLast (pathSteps path) with ⟨above, last⟩
  dsimp only
  cases tree.follow (tree.origin path) .folder above with
  | error fault => rfl
  | ok reached =>
    obtain ⟨folder, entry⟩ := reached
    cases entry with
    | file old => rfl
    | folder =>
      cases last with
      | none => rfl
      | some name =>
        dsimp only
        cases tree.entry? (folder ++ [name]) with
        | none =>
          dsimp only
          split <;> rfl
        | some found =>
          cases found with
          | file old => rfl
          | folder => rfl

end FileTree

end TableProfile.Storage
