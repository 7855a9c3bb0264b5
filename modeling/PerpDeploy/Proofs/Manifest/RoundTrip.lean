/-
Saving a manifest and loading it again. Nothing is lost on the way, whatever the names, texts
and numbers in the manifest are, so a file tells which manifest it was written from, and what
has been loaded and saved once stays as it is when that is done again.
-/

import PerpDeploy.Proofs.Manifest.File

namespace PerpDeploy.Manifest

theorem text_injective {left right : Manifest} (leftStorable : left.Storable)
    (rightStorable : right.Storable) (same : left.text = right.text) : left = right := by
  have read := decode_text leftStorable
  rw [same, decode_text rightStorable] at read
  exact (Except.ok.inj read).symm

/-- What is saved stands in the file as its text, is loaded as it was, and is not changed by
being saved again. -/
theorem save_settled {files : FileTree} {path : Path} (writable : Writable files path)
    {manifest : Manifest} (storable : manifest.Storable) :
    ∃ written, manifest.save files path = (written, .ok ()) ∧
      written.readText path = .ok manifest.text ∧ load written path = .ok manifest ∧
      manifest.save written path = (written, .ok ()) := by
  obtain ⟨prepared, written, ready, wrote, saved⟩ := save_cases (writable manifest)
  have again := prepareDirectory_again ready (FileTree.keeps_of_written wrote)
  have rewrote : written.writeText path manifest.text = (written, .ok ()) :=
    (FileTree.write_over wrote manifest.text.toUTF8).trans wrote
  refine ⟨written, saved, FileTree.readText_of_written wrote, load_of_written storable wrote, ?_⟩
  simp only [save, again, rewrote]

theorem save_load_inverse (files : FileTree) (path : Path)
    (possible : ∃ some : Manifest, (some.save files path).2 = .ok ()) :
    (∀ manifest : Manifest, manifest.Storable →
      ∃ written, manifest.save files path = (written, .ok ()) ∧
        load written path = .ok manifest) ∧
    (∀ left right : Manifest, left.Storable → right.Storable →
      (left.save files path).1.readText path = (right.save files path).1.readText path →
      left = right) ∧
    ∀ manifest, load files path = .ok manifest →
      ∃ written, manifest.save files path = (written, .ok ()) ∧
        written.readText path = .ok manifest.text ∧ load written path = .ok manifest ∧
        manifest.save written path = (written, .ok ()) := by
  obtain ⟨some, saved⟩ := possible
  have writable := writable_of_saved saved
  refine ⟨fun manifest storable => ?_, fun left right leftStorable rightStorable same => ?_,
    fun manifest loaded => ?_⟩
  · obtain ⟨written, done, _, back, _⟩ := save_settled writable storable
    exact ⟨written, done, back⟩
  · obtain ⟨here, leftDone, leftText, _⟩ := save_settled writable leftStorable
    obtain ⟨there, rightDone, rightText, _⟩ := save_settled writable rightStorable
    rw [leftDone, rightDone, leftText, rightText] at same
    exact text_injective leftStorable rightStorable (Except.ok.inj same)
  · exact save_settled writable (storable_of_load loaded)

/-- Names and texts that need escapes, and numbers at both ends of what fits. -/
def extremeManifest : Manifest :=
  { networks :=
      [ ("",
          { chainId := "\"\\\u0000\n", fingerprint := "é😀", status := .failed
            updatedAt := -(Int.pow 2 63), deployerVersion := ""
            contracts :=
              [ { name := .vamm, address := "\x7b\u0000\x7d", ordinal := Nat.pow 2 64 - 1
                  deployedAt := Int.pow 2 63 - 1, artifact := "\t", codeId := some (Nat.pow 2 64 - 1) },
                { name := .engine, address := "", ordinal := 0, deployedAt := 0, artifact := ""
                  codeId := none } ] }),
        ("\"networks\"",
          { chainId := "", fingerprint := "", status := .inProgress, updatedAt := 0
            deployerVersion := "", contracts := [] }) ] }

theorem extremeManifest_storable : extremeManifest.Storable := by
  constructor
  · exact List.pairwise_pair.mpr (by decide)
  · intro held member
    rcases List.mem_cons.mp member with rfl | later
    · refine ⟨by decide, fun record found => ?_⟩
      rcases List.mem_cons.mp found with rfl | other
      · exact ⟨by decide, by decide, fun codeId given => by cases given; decide⟩
      · cases List.mem_singleton.mp other
        exact ⟨by decide, by decide, fun codeId given => by cases given⟩
    · cases List.mem_singleton.mp later
      exact ⟨by decide, fun record found => by cases found⟩

/-- An entry as nobody would save it: on one line, with its fields out of order and an escape
that is not needed. -/
def looseText : String :=
  "\x7b\"local\":\x7b\"status\":\"failed\",\"chain_id\":\"\\u0041\",\"profile_fingerprint\":\"\"," ++
    "\"updated_at\":-5,\"contracts\":[],\"deployer_version\":\"\"\x7d\x7d"

def looseManifest : Manifest :=
  { networks :=
      [ ("local",
          { chainId := "A", fingerprint := "", status := .failed, updatedAt := -5
            deployerVersion := "", contracts := [] }) ] }

def looseTree : FileTree :=
  { entries :=
      [ (["out"], .directory FileTree.directoryMode),
        (["out", "deployments.json"], .file looseText.toUTF8) ]
    workingDirectory := ["work"] }

theorem save_load_inverse_loose :
    (empty.save looseTree "/out/deployments.json").2 = .ok () ∧ extremeManifest.Storable ∧
      load looseTree "/out/deployments.json" = .ok looseManifest ∧
      (∃ written, extremeManifest.save looseTree "/out/deployments.json" = (written, .ok ()) ∧
        load written "/out/deployments.json" = .ok extremeManifest) ∧
      ∃ written, looseManifest.save looseTree "/out/deployments.json" = (written, .ok ()) ∧
        written.readText "/out/deployments.json" = .ok looseManifest.text ∧
        load written "/out/deployments.json" = .ok looseManifest ∧
        looseManifest.save written "/out/deployments.json" = (written, .ok ()) := by
  have possible : (empty.save looseTree "/out/deployments.json").2 = .ok () := rfl
  have loaded : load looseTree "/out/deployments.json" = .ok looseManifest :=
    Json.ok_of_toOption (by decide +kernel)
  obtain ⟨back, _, settled⟩ := save_load_inverse looseTree "/out/deployments.json"
    ⟨empty, possible⟩
  exact ⟨possible, extremeManifest_storable, loaded,
    back extremeManifest extremeManifest_storable, settled looseManifest loaded⟩

end PerpDeploy.Manifest
