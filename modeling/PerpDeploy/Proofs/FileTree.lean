/-
Directories stay where they are while files are written. A path that leads to a file or to a
directory leads there as long as no directory on the way is taken away, so what has been
written can be read back and written again.
-/

import PerpDeploy.FileTree
import PerpDeploy.Text.Utf8

namespace PerpDeploy.FileTree

/-! ### Single entries -/

theorem at?_put_self (tree : FileTree) {location : Location} (below : location ≠ [])
    (entry : FileEntry) : (tree.put location entry).at? location = some entry := by
  have others : (tree.entries.filter fun held => held.1 ≠ location).find?
      (fun held => held.1 = location) = none := by
    rw [List.find?_eq_none]
    intro held member
    simpa using (List.mem_filter.mp member).2
  have inside : location.isEmpty = false := by
    rw [Bool.eq_false_iff]
    exact fun empty => below (List.isEmpty_iff.mp empty)
  simp only [at?, put, inside, List.find?_append, others]
  simp

theorem at?_put_other (tree : FileTree) {location other : Location} (apart : other ≠ location)
    (entry : FileEntry) : (tree.put location entry).at? other = tree.at? other := by
  have kept : (tree.entries.filter fun held => held.1 ≠ location).find?
      (fun held => held.1 = other) = tree.entries.find? fun held => held.1 = other := by
    rw [List.find?_filter]
    congr 1
    funext held
    by_cases same : held.1 = other
    · simp [same, apart]
    · simp [same]
  have missing : [(location, entry)].find? (fun held => held.1 = other) = none := by
    simp [Ne.symm apart]
  simp only [at?, put, List.find?_append, kept, missing, Option.or_none]

theorem put_put (tree : FileTree) (location : Location) (first second : FileEntry) :
    (tree.put location first).put location second = tree.put location second := by
  have dropped : [(location, first)].filter (fun held => decide (held.1 ≠ location)) = [] := by
    simp
  simp only [put, List.filter_append, List.filter_filter, Bool.and_self, dropped,
    List.append_nil]

/-- Every directory of the one tree is a directory of the other, and the same places cannot be
written to. -/
structure Keeps (before after : FileTree) : Prop where
  workingDirectory : after.workingDirectory = before.workingDirectory
  faults : after.faults = before.faults
  directories : ∀ location mode, before.at? location = some (.directory mode) →
    after.at? location = some (.directory mode)

theorem keeps_put {tree : FileTree} {location : Location}
    (free : ∀ mode, tree.at? location ≠ some (.directory mode)) (entry : FileEntry) :
    Keeps tree (tree.put location entry) := by
  refine ⟨rfl, rfl, fun other mode there => ?_⟩
  have apart : other ≠ location := fun same => free mode (same ▸ there)
  rw [at?_put_other tree apart entry]
  exact there

theorem nonempty_of_free {tree : FileTree} {location : Location}
    (free : ∀ mode, tree.at? location ≠ some (.directory mode)) : location ≠ [] := by
  rintro rfl
  exact free directoryMode rfl

/-! ### Paths -/

theorem walk_entry {tree : FileTree} {here : Location} {names : List String} {target : Target}
    (walked : tree.walk here names = .ok target) : target.entry = tree.at? target.location := by
  induction names generalizing here with
  | nil =>
      cases walked
      rfl
  | cons name rest ih =>
      unfold walk at walked
      split at walked
      · cases walked
      · cases walked
      · split at walked
        · exact ih walked
        · split at walked
          · exact ih walked
          · split at walked
            · cases walked
            · exact ih walked

/-- A walk passes through directories only. -/
theorem walk_of_keeps {before after : FileTree} (keeps : Keeps before after) {here : Location}
    {names : List String} {target : Target} (walked : before.walk here names = .ok target) :
    after.walk here names = .ok { target with entry := after.at? target.location } := by
  induction names generalizing here with
  | nil =>
      cases walked
      rfl
  | cons name rest ih =>
      unfold walk at walked ⊢
      split at walked
      · cases walked
      · cases walked
      · rename_i mode there
        rw [keeps.directories here mode there]
        simp only
        split at walked
        · rename_i dot
          rw [if_pos dot]
          exact ih walked
        · rename_i dot
          rw [if_neg dot]
          split at walked
          · rename_i dots
            rw [if_pos dots]
            exact ih walked
          · rename_i dots
            rw [if_neg dots]
            split at walked
            · cases walked
            · rename_i short
              rw [if_neg short]
              exact ih walked

theorem resolve_entry {tree : FileTree} {path : Path} {target : Target}
    (resolved : tree.resolve path = .ok target) : target.entry = tree.at? target.location := by
  unfold resolve at resolved
  generalize (if path.isAbsolute then [] else tree.workingDirectory) = start at resolved
  split at resolved
  · cases resolved
  · split at resolved
    · cases resolved
    · split at resolved
      · cases resolved
      · simp only at resolved
        split at resolved
        · cases resolved
        · rename_i walked
          cases resolved
          have held := walk_entry walked
          exact held

theorem resolve_of_keeps {before after : FileTree} (keeps : Keeps before after) {path : Path}
    {target : Target} (resolved : before.resolve path = .ok target) :
    after.resolve path = .ok { target with entry := after.at? target.location } := by
  unfold resolve at resolved ⊢
  rw [keeps.workingDirectory]
  generalize (if path.isAbsolute then [] else before.workingDirectory) = start at resolved ⊢
  split at resolved
  · cases resolved
  · rename_i text
    rw [if_neg text]
    split at resolved
    · cases resolved
    · rename_i named
      rw [if_neg named]
      split at resolved
      · cases resolved
      · rename_i short
        rw [if_neg short]
        simp only at resolved
        split at resolved
        · cases resolved
        · rename_i walked
          cases resolved
          simp only [walk_of_keeps keeps walked]

/-! ### Files -/

/-- The fault that a place has shows in every write to it, and only there. -/
theorem fill_ok_iff (tree after : FileTree) (location : Location) (content : ByteArray) :
    tree.fill location content = (after, .ok ()) ↔
      tree.faults location = none ∧ after = tree.put location (.file content) := by
  unfold fill
  cases tree.faults location with
  | none => simp [eq_comm]
  | some fault => cases fault <;> simp

/-- A write goes to a place that is no directory and puts the content there. -/
theorem write_cases {tree after : FileTree} {path : Path} {content : ByteArray}
    (written : tree.write path content = (after, .ok ())) :
    ∃ target, tree.resolve path = .ok target ∧ target.wantsDirectory = false ∧
      (∀ mode, tree.at? target.location ≠ some (.directory mode)) ∧
      tree.faults target.location = none ∧
      after = tree.put target.location (.file content) := by
  unfold write at written
  cases resolved : tree.resolve path with
  | error fault => rw [resolved] at written; cases written
  | ok target =>
      have entry := resolve_entry resolved
      rw [resolved] at written
      dsimp only at written
      cases there : target.entry with
      | none =>
          rw [there] at written entry
          dsimp only at written
          split at written
          · cases written
          · rename_i plain
            refine ⟨target, rfl, Bool.eq_false_iff.mpr plain, fun mode same => ?_,
              (fill_ok_iff _ _ _ _).mp written⟩
            rw [same] at entry
            cases entry
      | some held =>
          cases held with
          | directory mode => rw [there] at written; cases written
          | file old =>
              rw [there] at written entry
              dsimp only at written
              split at written
              · cases written
              · rename_i plain
                refine ⟨target, rfl, Bool.eq_false_iff.mpr plain, fun mode same => ?_,
                  (fill_ok_iff _ _ _ _).mp written⟩
                rw [same] at entry
                cases entry

theorem resolve_of_written {tree after : FileTree} {path : Path} {content : ByteArray}
    (written : tree.write path content = (after, .ok ())) :
    ∃ location, after.resolve path =
      .ok { location, entry := some (.file content), wantsDirectory := false } := by
  obtain ⟨target, resolved, plain, free, sound, rfl⟩ := write_cases written
  have there := at?_put_self tree (nonempty_of_free free) (.file content)
  have again := resolve_of_keeps (keeps_put free (.file content)) resolved
  rw [there, plain] at again
  exact ⟨target.location, again⟩

theorem keeps_of_written {tree after : FileTree} {path : Path} {content : ByteArray}
    (written : tree.write path content = (after, .ok ())) : Keeps tree after := by
  obtain ⟨target, _, _, free, _, rfl⟩ := write_cases written
  exact keeps_put free (.file content)

theorem status_of_written {tree after : FileTree} {path : Path} {content : ByteArray}
    (written : tree.write path content = (after, .ok ())) :
    after.status path = .ok (.file content) := by
  obtain ⟨location, resolved⟩ := resolve_of_written written
  simp only [status, resolved, bind, Except.bind]
  rfl

theorem isThere_of_written {tree after : FileTree} {path : Path} {content : ByteArray}
    (written : tree.write path content = (after, .ok ())) : after.isThere path = true := by
  simp only [isThere, status_of_written written]

theorem readText_of_written {tree after : FileTree} {path : Path} {text : String}
    (written : tree.writeText path text = (after, .ok ())) : after.readText path = .ok text := by
  have back : String.fromUTF8? text.toUTF8 = some text := Text.fromUTF8?_eq_some_iff.mpr rfl
  simp only [readText, status_of_written written, bind, Except.bind, back]

theorem readText_ok_iff (tree : FileTree) (path : Path) (text : String) :
    tree.readText path = .ok text ↔
      ∃ content, tree.status path = .ok (.file content) ∧
        String.fromUTF8? content = some text := by
  unfold readText
  cases there : tree.status path with
  | error fault => simp [bind, Except.bind]
  | ok entry =>
      cases entry with
      | directory mode => simp [bind, Except.bind]
      | file content =>
          simp only [bind, Except.bind]
          cases valid : String.fromUTF8? content with
          | none => simp [valid]
          | some found => simp [valid]

theorem write_of_free {tree : FileTree} {path : Path} {target : Target}
    (resolved : tree.resolve path = .ok target) (plain : target.wantsDirectory = false)
    (free : ∀ mode, tree.at? target.location ≠ some (.directory mode))
    (sound : tree.faults target.location = none) (content : ByteArray) :
    tree.write path content = (tree.put target.location (.file content), .ok ()) := by
  have entry := resolve_entry resolved
  have filled := (fill_ok_iff tree _ target.location content).mpr ⟨sound, rfl⟩
  simp only [write, resolved, plain, Bool.false_eq_true, if_false]
  cases held : target.entry with
  | none => exact filled
  | some found =>
      cases found with
      | file old => exact filled
      | directory mode =>
          rw [held] at entry
          exact absurd entry.symm (free mode)

/-- Whether a file can be written does not depend on what is written. -/
theorem write_of_write {tree after : FileTree} {path : Path} {content : ByteArray}
    (written : tree.write path content = (after, .ok ())) (other : ByteArray) :
    ∃ later, tree.write path other = (later, .ok ()) := by
  obtain ⟨target, resolved, plain, free, sound, _⟩ := write_cases written
  exact ⟨_, write_of_free resolved plain free sound other⟩

/-- Of two writes to a path the second is all that counts. -/
theorem write_over {tree after : FileTree} {path : Path} {content : ByteArray}
    (written : tree.write path content = (after, .ok ())) (other : ByteArray) :
    after.write path other = tree.write path other := by
  obtain ⟨target, resolved, plain, free, sound, rfl⟩ := write_cases written
  have there := at?_put_self tree (nonempty_of_free free) (.file content)
  have again := resolve_of_keeps (keeps_put free (.file content)) resolved
  have still : ∀ mode, (tree.put target.location (.file content)).at? target.location ≠
      some (.directory mode) := by
    intro mode same
    rw [there] at same
    cases same
  rw [write_of_free resolved plain free sound, write_of_free again plain still sound, put_put]

/-- What is at a place that refuses to be written to stays there, whatever was to replace it. -/
theorem write_of_refused {tree : FileTree} {path : Path} {target : Target} {fault : FileFault}
    (resolved : tree.resolve path = .ok target)
    (refused : tree.faults target.location = some (.refused fault)) (content : ByteArray) :
    (tree.write path content).1 = tree := by
  have kept : (tree.fill target.location content).1 = tree := by
    simp only [fill, refused]
  simp only [write, resolved]
  split
  · rfl
  · split
    · rfl
    · exact kept
  · split
    · rfl
    · exact kept

/-! ### Directories -/

theorem isDirectory_of_keeps {before after : FileTree} (keeps : Keeps before after)
    {path : Path} (there : before.isDirectory path) : after.isDirectory path := by
  unfold isDirectory status at there ⊢
  cases resolved : before.resolve path with
  | error fault => rw [resolved] at there; cases there
  | ok target =>
      have entry := resolve_entry resolved
      rw [resolved] at there
      rw [resolve_of_keeps keeps resolved]
      cases held : target.entry with
      | none =>
          simp only [bind, Except.bind, held] at there
          cases there
      | some found =>
          cases found with
          | file content =>
              simp only [bind, Except.bind, held] at there
              cases wants : target.wantsDirectory with
              | true => rw [wants] at there; cases there
              | false => rw [wants] at there; cases there
          | directory mode =>
              rw [held] at entry
              simp only [bind, Except.bind, keeps.directories _ _ entry.symm]

theorem isDirectory_of_made {tree made : FileTree} {path : Path}
    (done : tree.makeDirectory path = .ok made) : made.isDirectory path := by
  unfold makeDirectory at done
  cases resolved : tree.resolve path with
  | error fault => rw [resolved] at done; cases done
  | ok target =>
      have entry := resolve_entry resolved
      rw [resolved] at done
      simp only [bind, Except.bind] at done
      cases held : target.entry with
      | some found => rw [held] at done; cases done
      | none =>
          rw [held] at done entry
          dsimp only at done
          split at done
          · cases done
          cases done
          have free : ∀ mode, tree.at? target.location ≠ some (.directory mode) := by
            intro mode same
            rw [same] at entry
            cases entry
          have there := at?_put_self tree (nonempty_of_free free) (.directory directoryMode)
          have again := resolve_of_keeps (keeps_put free (.directory directoryMode)) resolved
          rw [there] at again
          simp only [isDirectory, status, again, bind, Except.bind]

theorem isDirectory_of_makeLast {prepared made : FileTree} {path : Path}
    (done : makeDirectoriesWithin.makeLast prepared path = (made, .ok ())) :
    made.isDirectory path := by
  unfold makeDirectoriesWithin.makeLast at done
  cases step : prepared.makeDirectory path with
  | ok last =>
      rw [step] at done
      cases done
      exact isDirectory_of_made step
  | error fault =>
      rw [step] at done
      simp only [Prod.mk.injEq] at done
      obtain ⟨rfl, there⟩ := done
      split at there
      · rename_i held
        exact held
      · cases there

/-- Once the directories of a path are made, it leads to a directory. -/
theorem isDirectory_of_makeDirectories {tree made : FileTree} {path : Path}
    (named : path.isEmpty = false) (done : tree.makeDirectories path = (made, .ok ())) :
    made.isDirectory path := by
  unfold makeDirectories makeDirectoriesWithin at done
  rw [named] at done
  simp only [Bool.false_eq_true, if_false] at done
  cases step : tree.makeDirectory path with
  | ok last =>
      rw [step] at done
      cases done
      exact isDirectory_of_made step
  | error fault =>
      rw [step] at done
      split at done
      · rename_i made
        cases made
      · split at done
        · cases done
        · split at done
          · cases done
          · exact isDirectory_of_makeLast done
      · simp only [Prod.mk.injEq] at done
        obtain ⟨rfl, there⟩ := done
        split at there
        · rename_i held
          exact held
        · cases there

theorem makeDirectories_of_isDirectory {tree : FileTree} {path : Path}
    (there : tree.isDirectory path) : tree.makeDirectories path = (tree, .ok ()) := by
  have taken : tree.makeDirectory path = .error .alreadyExists := by
    have held := there
    unfold isDirectory status at held
    unfold makeDirectory
    cases resolved : tree.resolve path with
    | error fault => rw [resolved] at held; cases held
    | ok target =>
        rw [resolved] at held
        simp only [bind, Except.bind] at held ⊢
        cases entry : target.entry with
        | none => rw [entry] at held; cases held
        | some found => rfl
  unfold makeDirectories makeDirectoriesWithin
  split
  · rfl
  · rw [taken]

end PerpDeploy.FileTree
