/-
The manifest in its file. Where the file can be written once it can be written again, and
what was written last is what is loaded.
-/

import PerpDeploy.Proofs.FileTree
import PerpDeploy.Proofs.Manifest.Text

namespace PerpDeploy.Manifest

/-- A manifest can be saved at the path, whatever it holds. -/
def Writable (files : FileTree) (path : Path) : Prop :=
  ∀ manifest : Manifest, (manifest.save files path).2 = .ok ()

theorem storable_of_load {files : FileTree} {path : Path} {manifest : Manifest}
    (loaded : load files path = .ok manifest) : manifest.Storable := by
  unfold load at loaded
  split at loaded
  · cases loaded
    exact storable_empty
  · split at loaded
    · cases loaded
    · split at loaded
      · rename_i decoded
        cases loaded
        obtain ⟨document, read⟩ := Json.document_of_decodeText decoded
        exact storable_of_decoded read
      · cases loaded

/-- A directory that was made for the file is still there once the file is written. -/
theorem prepareDirectory_again {files prepared after : FileTree} {path : Path}
    (done : prepareDirectory files path = (prepared, .ok ())) (keeps : prepared.Keeps after) :
    prepareDirectory after path = (after, .ok ()) := by
  unfold prepareDirectory at done ⊢
  cases above : path.parent? with
  | none => rfl
  | some parent =>
      rw [above] at done
      simp only at done ⊢
      split at done
      · rename_i empty
        rw [if_pos empty]
      · rename_i named
        rw [if_neg named]
        split at done
        · rename_i made
          cases done
          have there := FileTree.isDirectory_of_makeDirectories (Bool.eq_false_iff.mpr named) made
          rw [FileTree.makeDirectories_of_isDirectory
            (FileTree.isDirectory_of_keeps keeps there)]
        · cases done

theorem save_cases {manifest : Manifest} {files : FileTree} {path : Path}
    (saved : (manifest.save files path).2 = .ok ()) :
    ∃ prepared written, prepareDirectory files path = (prepared, .ok ()) ∧
      prepared.writeText path manifest.text = (written, .ok ()) ∧
      manifest.save files path = (written, .ok ()) := by
  unfold save at saved ⊢
  cases ready : prepareDirectory files path with
  | mk prepared outcome =>
      rw [ready] at saved
      cases outcome with
      | error trail => cases saved
      | ok done =>
          cases wrote : prepared.writeText path manifest.text with
          | mk written result =>
              cases result with
              | error fault => simp only [wrote] at saved; cases saved
              | ok done => exact ⟨prepared, written, rfl, wrote, by simp only [wrote]⟩

/-- Where one manifest can be saved any other can. -/
theorem writable_of_saved {manifest : Manifest} {files : FileTree} {path : Path}
    (saved : (manifest.save files path).2 = .ok ()) : Writable files path := by
  intro other
  obtain ⟨prepared, written, ready, wrote, _⟩ := save_cases saved
  obtain ⟨later, rewrote⟩ := FileTree.write_of_write wrote other.text.toUTF8
  have text : prepared.writeText path other.text = (later, .ok ()) := rewrote
  simp only [save, ready, text]

theorem load_of_written {tree written : FileTree} {path : Path} {manifest : Manifest}
    (storable : manifest.Storable) (wrote : tree.writeText path manifest.text = (written, .ok ())) :
    load written path = .ok manifest := by
  simp only [load, FileTree.isThere_of_written wrote, FileTree.readText_of_written wrote,
    decode_text storable, Bool.not_true, Bool.false_eq_true, if_false]

/-- A manifest that is saved is loaded as it was, and the next one can be saved as well. -/
theorem save_of_writable {files : FileTree} {path : Path} (writable : Writable files path)
    {manifest : Manifest} (storable : manifest.Storable) :
    ∃ written, manifest.save files path = (written, .ok ()) ∧
      load written path = .ok manifest ∧ Writable written path := by
  obtain ⟨prepared, written, ready, wrote, saved⟩ := save_cases (writable manifest)
  refine ⟨written, saved, load_of_written storable wrote, fun next => ?_⟩
  have again := prepareDirectory_again ready (FileTree.keeps_of_written wrote)
  obtain ⟨later, rewrote⟩ := FileTree.write_of_write wrote next.text.toUTF8
  rw [← FileTree.write_over wrote] at rewrote
  have text : written.writeText path next.text = (later, .ok ()) := rewrote
  simp only [save, again, text]

theorem upsert_of_writable {files : FileTree} {path : Path} (writable : Writable files path)
    {manifest : Manifest} (loaded : load files path = .ok manifest) (network : String)
    {entry : NetworkEntry} (inRange : entry.InRange) :
    load (upsert files path network entry).1 path = .ok (manifest.insert network entry) ∧
      Writable (upsert files path network entry).1 path := by
  obtain ⟨written, saved, back, again⟩ :=
    save_of_writable writable ((storable_of_load loaded).insert network inRange)
  simp only [upsert, loaded, saved]
  exact ⟨back, again⟩

/-- A file that refuses to be written to outlasts every update of the manifest in it. -/
theorem upsert_of_refused {files : FileTree} {path : Path} {target : FileTree.Target}
    {fault : FileFault} (ready : prepareDirectory files path = (files, .ok ()))
    (resolved : files.resolve path = .ok target)
    (refused : files.faults target.location = some (.refused fault)) (network : String)
    (entry : NetworkEntry) : (upsert files path network entry).1 = files := by
  have left (manifest : Manifest) : (manifest.save files path).1 = files := by
    have kept := FileTree.write_of_refused resolved refused manifest.text.toUTF8
    simp only [save, ready, FileTree.writeText]
    split
    · rename_i wrote
      exact (congrArg Prod.fst wrote).symm.trans kept
    · rename_i wrote
      exact (congrArg Prod.fst wrote).symm.trans kept
  unfold upsert
  split
  · rfl
  · exact left _

end PerpDeploy.Manifest
