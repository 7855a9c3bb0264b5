/-
The manifest after any number of writes. The file is a map from networks to entries in which
the last write for a network counts; how the writes for different networks follow one another
cannot be told from it. A file that does not hold a manifest is never written to.
-/

import PerpDeploy.Proofs.Manifest.RoundTrip

namespace PerpDeploy.Manifest

/-- An entry that is written for a network. -/
structure Update where
  network : String
  entry : NetworkEntry

/-- One write after the other, with what each has come to. -/
def upsertAll (path : Path) : List Update → FileTree → FileTree × List (Except Trail Unit)
  | [], files => (files, [])
  | update :: rest, files =>
      let first := upsert files path update.network update.entry
      let others := upsertAll path rest first.1
      (others.1, first.2 :: others.2)

def updatesOf (network : String) (updates : List Update) : List Update :=
  updates.filter fun update => update.network = network

/-- The entry that is written last for a network, if there is one. -/
def latest? (network : String) (updates : List Update) : Option NetworkEntry :=
  (updatesOf network updates).getLast?.map Update.entry

/-- The manifest that a file is read as; where no file is there it is empty. -/
inductive Holds (files : FileTree) (path : Path) : Manifest → Prop
  | absent (missing : files.isThere path = false) : Holds files path empty
  | stored {content : ByteArray} {text : String} {manifest : Manifest}
      (there : files.status path = .ok (.file content))
      (valid : String.fromUTF8? content = some text)
      (decoded : Json.decodeText decoder text = .ok manifest) : Holds files path manifest

theorem load_ok_iff (files : FileTree) (path : Path) (manifest : Manifest) :
    load files path = .ok manifest ↔ Holds files path manifest := by
  constructor
  · intro loaded
    unfold load at loaded
    split at loaded
    · rename_i missing
      cases loaded
      exact .absent (by simpa using missing)
    · split at loaded
      · cases loaded
      · rename_i read
        obtain ⟨content, there, valid⟩ := (FileTree.readText_ok_iff _ _ _).mp read
        split at loaded
        · rename_i decoded
          cases loaded
          exact .stored there valid decoded
        · cases loaded
  · intro holds
    cases holds with
    | absent missing => simp only [load, missing, Bool.not_false, if_true]
    | stored there valid decoded =>
        have read := (FileTree.readText_ok_iff _ _ _).mpr ⟨_, there, valid⟩
        simp only [load, FileTree.isThere, there, read, decoded, Bool.not_true,
          Bool.false_eq_true, if_false]

/-! ### The manifest as a map -/

theorem mem_iff_network? {networks : List (String × NetworkEntry)}
    (sorted : networks.Pairwise fun left right => left.1 < right.1) (network : String)
    (entry : NetworkEntry) :
    (network, entry) ∈ networks ↔ network? { networks } network = some entry := by
  induction networks with
  | nil => simp [network?]
  | cons first rest ih =>
      obtain ⟨name, held⟩ := first
      obtain ⟨above, others⟩ := List.pairwise_cons.mp sorted
      rw [network?_cons, List.mem_cons, ih others]
      by_cases same : name = network
      · subst same
        have absent : network? { networks := rest } name ≠ some entry := by
          intro found
          have below := above (name, entry) ((ih others).mpr found)
          exact String.lt_irrefl name below
        simp [absent, eq_comm]
      · have apart : (network, entry) ≠ (name, held) := fun equal =>
          same (congrArg Prod.fst equal).symm
        simp [same, apart]

/-- A manifest is known from the entries of all networks. -/
theorem eq_of_network? {left right : Manifest}
    (leftSorted : left.networks.Pairwise fun early late => early.1 < late.1)
    (rightSorted : right.networks.Pairwise fun early late => early.1 < late.1)
    (same : ∀ network, left.network? network = right.network? network) : left = right := by
  have members : ∀ held, held ∈ left.networks ↔ held ∈ right.networks := by
    rintro ⟨network, entry⟩
    rw [mem_iff_network? leftSorted, mem_iff_network? rightSorted, same]
  have distinct : ∀ {networks : List (String × NetworkEntry)},
      (networks.Pairwise fun early late => early.1 < late.1) → networks.Nodup := by
    intro networks sorted
    refine sorted.imp fun {early late} less equal => ?_
    rw [equal] at less
    exact String.lt_irrefl _ less
  have perm := (List.perm_ext_iff_of_nodup (distinct leftSorted) (distinct rightSorted)).mpr members
  have networks : left.networks = right.networks := by
    refine perm.eq_of_pairwise (fun early late _ _ before after => ?_) leftSorted rightSorted
    exact absurd (String.lt_trans before after) (String.lt_irrefl _)
  obtain ⟨_⟩ := left
  obtain ⟨_⟩ := right
  exact congrArg Manifest.mk networks

def insertAll (manifest : Manifest) (updates : List Update) : Manifest :=
  updates.foldl (fun held update => held.insert update.network update.entry) manifest

theorem Storable.insertAll {manifest : Manifest} (storable : manifest.Storable)
    {updates : List Update} (inRange : ∀ update ∈ updates, update.entry.InRange) :
    (manifest.insertAll updates).Storable := by
  induction updates generalizing manifest with
  | nil => exact storable
  | cons update rest ih =>
      have first := storable.insert update.network (inRange update List.mem_cons_self)
      exact ih first fun other later => inRange other (List.mem_cons_of_mem update later)

theorem latest?_cons (network : String) (update : Update) (rest : List Update) :
    latest? network (update :: rest) =
      (latest? network rest).or (if update.network = network then some update.entry else none) := by
  unfold latest? updatesOf
  by_cases same : update.network = network
  · rw [List.filter_cons_of_pos (by simpa using same), List.getLast?_cons, if_pos same]
    cases (rest.filter fun other => other.network = network).getLast? <;> rfl
  · rw [List.filter_cons_of_neg (by simpa using same), if_neg same, Option.or_none]

/-- Each network has the entry that is inserted for it last. -/
theorem network?_insertAll (manifest : Manifest) (updates : List Update) (network : String) :
    (manifest.insertAll updates).network? network =
      (latest? network updates).or (manifest.network? network) := by
  induction updates generalizing manifest with
  | nil => rfl
  | cons update rest ih =>
      have onward := ih (manifest.insert update.network update.entry)
      rw [latest?_cons, Option.or_assoc]
      refine onward.trans ?_
      by_cases same : update.network = network
      · rw [if_pos same, ← same, network?_insert_self, Option.some_or]
      · rw [if_neg same, network?_insert_other manifest (Ne.symm same), Option.none_or]

/-- Only the order within each network counts. -/
theorem insertAll_congr {manifest : Manifest} (storable : manifest.Storable)
    {left right : List Update} (leftInRange : ∀ update ∈ left, update.entry.InRange)
    (rightInRange : ∀ update ∈ right, update.entry.InRange)
    (agree : ∀ network, updatesOf network left = updatesOf network right) :
    manifest.insertAll left = manifest.insertAll right := by
  apply eq_of_network? (storable.insertAll leftInRange).sorted
    (storable.insertAll rightInRange).sorted
  intro network
  rw [network?_insertAll, network?_insertAll, latest?, latest?, agree]

/-! ### The file -/

/-- Of two manifests saved at a path the second is all that counts. -/
theorem save_save {first : Manifest} {files written : FileTree} {path : Path}
    (saved : first.save files path = (written, .ok ())) (second : Manifest) :
    second.save written path = second.save files path := by
  obtain ⟨prepared, after, ready, wrote, same⟩ := save_cases (congrArg Prod.snd saved)
  rw [saved] at same
  cases same
  have again := prepareDirectory_again ready (FileTree.keeps_of_written wrote)
  obtain ⟨later, rewrote⟩ := FileTree.write_of_write wrote second.text.toUTF8
  have overwritten : written.writeText path second.text = prepared.writeText path second.text :=
    FileTree.write_over wrote _
  have text : prepared.writeText path second.text = (later, .ok ()) := rewrote
  simp only [save, again, ready, overwritten, text]

/-- A history of writes leaves what one write of its outcome would have left. -/
theorem upsertAll_of_writable {files : FileTree} {path : Path} {before : Manifest}
    (loaded : load files path = .ok before) (writable : Writable files path)
    {updates : List Update} (inRange : ∀ update ∈ updates, update.entry.InRange) :
    (upsertAll path updates files).2 = updates.map (fun _ => .ok ()) ∧
      load (upsertAll path updates files).1 path = .ok (before.insertAll updates) ∧
      (updates ≠ [] → (before.insertAll updates).save files path =
        ((upsertAll path updates files).1, .ok ())) := by
  induction updates generalizing files before with
  | nil => exact ⟨rfl, loaded, fun some => absurd rfl some⟩
  | cons update rest ih =>
      have storable := (storable_of_load loaded).insert update.network
        (inRange update List.mem_cons_self)
      obtain ⟨written, saved, back, again⟩ := save_of_writable writable storable
      have first : upsert files path update.network update.entry = (written, .ok ()) := by
        simp only [upsert, loaded, saved]
      obtain ⟨outcomes, after, whole⟩ := ih back again
        fun other later => inRange other (List.mem_cons_of_mem update later)
      simp only [upsertAll, first, List.map_cons, outcomes, true_and]
      refine ⟨after, fun _ => ?_⟩
      cases rest with
      | nil => exact saved
      | cons next more => exact (save_save saved _).symm.trans (whole (List.cons_ne_nil _ _))

/-- Where the file holds no manifest nothing is written. -/
theorem upsertAll_of_unread {files : FileTree} {path : Path} {trail : Trail}
    (unread : load files path = .error trail) (updates : List Update) :
    upsertAll path updates files = (files, updates.map fun _ => .error trail) := by
  induction updates with
  | nil => rfl
  | cons update rest ih =>
      have refused : upsert files path update.network update.entry = (files, .error trail) := by
        simp only [upsert, unread]
      simp only [upsertAll, refused, ih, List.map_cons]

theorem upserts_last_wins (files : FileTree) (path : Path) :
    (∀ (before : Manifest) (updates : List Update), Holds files path before →
      Writable files path → (∀ update ∈ updates, update.entry.InRange) →
      (upsertAll path updates files).2 = updates.map (fun _ => .ok ()) ∧
      ∃ after, load (upsertAll path updates files).1 path = .ok after ∧ after.Storable ∧
        ∀ network, after.network? network =
          (latest? network updates).or (before.network? network)) ∧
    (∀ (before : Manifest) (left right : List Update), Holds files path before →
      Writable files path → (∀ update ∈ left ++ right, update.entry.InRange) → left ≠ [] →
      (∀ network, updatesOf network left = updatesOf network right) →
      ∃ text, (upsertAll path left files).1.readText path = .ok text ∧
        (upsertAll path right files).1.readText path = .ok text) ∧
    ((∀ manifest, ¬ Holds files path manifest) → ∀ updates : List Update,
      ∃ trail, upsertAll path updates files = (files, updates.map fun _ => .error trail)) := by
  refine ⟨fun before updates holds writable inRange => ?_,
    fun before left right holds writable inRange some agree => ?_, fun unread updates => ?_⟩
  · have loaded := (load_ok_iff _ _ _).mpr holds
    obtain ⟨outcomes, after, _⟩ := upsertAll_of_writable loaded writable inRange
    exact ⟨outcomes, _, after, (storable_of_load loaded).insertAll inRange,
      network?_insertAll before updates⟩
  · have loaded := (load_ok_iff _ _ _).mpr holds
    have storable := storable_of_load loaded
    have leftInRange := fun update member => inRange update (List.mem_append_left right member)
    have rightInRange := fun update member => inRange update (List.mem_append_right left member)
    have same := insertAll_congr storable leftInRange rightInRange agree
    have others : right ≠ [] := by
      rintro rfl
      obtain ⟨first, rest, rfl⟩ := List.exists_cons_of_ne_nil some
      have gone := agree first.network
      simp [updatesOf] at gone
    have here := (upsertAll_of_writable loaded writable leftInRange).2.2 some
    have there := (upsertAll_of_writable loaded writable rightInRange).2.2 others
    rw [same, there] at here
    obtain ⟨written, saved, text, _, _⟩ :=
      save_settled writable (storable.insertAll rightInRange)
    rw [there] at saved
    cases saved
    exact ⟨_, by rw [← congrArg Prod.fst here]; exact text, text⟩
  · cases read : load files path with
    | ok manifest => exact absurd ((load_ok_iff _ _ _).mp read) (unread manifest)
    | error trail => exact ⟨trail, upsertAll_of_unread read updates⟩

def statusUpdate (network : String) (status : RunStatus) : Update :=
  { network
    entry :=
      { chainId := "", fingerprint := "", status, updatedAt := 0, deployerVersion := ""
        contracts := [] } }

theorem statusUpdate_inRange (network : String) (status : RunStatus) :
    (statusUpdate network status).entry.InRange :=
  ⟨(by decide : IsSignedWord 0), fun record member => by cases member⟩

/-- Where the manifest should be there is a file that is no text. -/
def garbledTree : FileTree :=
  { looseTree with
    entries :=
      [ (["out"], .directory FileTree.directoryMode),
        (["out", "deployments.json"], .file ⟨#[0xff]⟩) ] }

theorem upserts_last_wins_loose :
    let path := "/out/deployments.json"
    let begun := statusUpdate "testnet" .inProgress
    let ended := statusUpdate "testnet" .completed
    let elsewhere := statusUpdate "local" .completed
    Holds looseTree path looseManifest ∧ Writable looseTree path ∧
      (∃ after, load (upsertAll path [begun, elsewhere, ended] looseTree).1 path = .ok after ∧
        after.Storable ∧ after.network? "testnet" = some ended.entry) ∧
      (∃ text, (upsertAll path [begun, elsewhere, ended] looseTree).1.readText path = .ok text ∧
        (upsertAll path [elsewhere, begun, ended] looseTree).1.readText path = .ok text) ∧
      (∀ manifest, ¬ Holds garbledTree path manifest) ∧
      ∃ trail, upsertAll path [begun, ended] garbledTree =
        (garbledTree, [.error trail, .error trail]) := by
  intro path begun ended elsewhere
  have holds : Holds looseTree path looseManifest :=
    (load_ok_iff _ _ _).mp (Json.ok_of_toOption (by decide +kernel))
  have saved : (empty.save looseTree "/out/deployments.json").2 = .ok () := rfl
  have writable : Writable looseTree path := writable_of_saved saved
  have inRange : ∀ update ∈ [begun, elsewhere, ended], update.entry.InRange := by
    simp [begun, elsewhere, ended, statusUpdate_inRange]
  have both : ∀ update ∈ [begun, elsewhere, ended] ++ [elsewhere, begun, ended],
      update.entry.InRange := by
    simp [begun, elsewhere, ended, statusUpdate_inRange]
  have agree : ∀ network, updatesOf network [begun, elsewhere, ended] =
      updatesOf network [elsewhere, begun, ended] := by
    intro network
    by_cases same : network = "local"
    · subst same
      rfl
    · have apart : elsewhere.network ≠ network := Ne.symm same
      simp [updatesOf, List.filter_cons, apart]
  have unread : ∀ manifest, ¬ Holds garbledTree path manifest := by
    intro manifest holds
    have loaded := (load_ok_iff _ _ _).mpr holds
    have refused : (load garbledTree path).toOption = none := by decide +kernel
    rw [loaded] at refused
    cases refused
  obtain ⟨wins, commutes, _⟩ := upserts_last_wins looseTree path
  obtain ⟨_, after, loaded, storable, entries⟩ :=
    wins looseManifest [begun, elsewhere, ended] holds writable inRange
  exact ⟨holds, writable, ⟨after, loaded, storable, entries "testnet"⟩,
    commutes looseManifest _ _ holds writable both (List.cons_ne_nil _ _) agree, unread,
    (upserts_last_wins garbledTree path).2.2 unread [begun, ended]⟩

end PerpDeploy.Manifest
