/-
A manifest as a map from networks to entries, and as a text. What can be stored is sorted by
network and has its numbers in range; that is kept by every new entry, holds of all that has
been decoded, and is enough for the text to be decoded as the same manifest.
-/

import PerpDeploy.Proofs.Manifest.Entry

namespace PerpDeploy.Manifest

open Json (Document Context)

structure Storable (manifest : Manifest) : Prop where
  sorted : manifest.networks.Pairwise fun left right => left.1 < right.1
  inRange : ∀ held ∈ manifest.networks, held.2.InRange

/-! ### Entries of networks -/

theorem lt_of_not_lt_of_ne {left right : String} (not : ¬ left < right) (apart : left ≠ right) :
    right < left := by
  rw [← String.not_le]
  intro le
  exact apart (String.le_antisymm le (String.not_lt.mp not))

theorem mem_insertEntry {network : String} {entry : NetworkEntry}
    {networks : List (String × NetworkEntry)} {held : String × NetworkEntry}
    (member : held ∈ insertEntry network entry networks) :
    held = (network, entry) ∨ held ∈ networks := by
  induction networks with
  | nil => exact Or.inl (List.mem_singleton.mp member)
  | cons first rest ih =>
      obtain ⟨name, found⟩ := first
      unfold insertEntry at member
      split at member
      · exact List.mem_cons.mp member
      · split at member
        · rcases List.mem_cons.mp member with new | later
          · exact Or.inl new
          · exact Or.inr (List.mem_cons_of_mem _ later)
        · rcases List.mem_cons.mp member with same | later
          · exact Or.inr (same ▸ List.mem_cons_self)
          · exact (ih later).imp id (List.mem_cons_of_mem _)

theorem sorted_insertEntry (network : String) (entry : NetworkEntry)
    {networks : List (String × NetworkEntry)}
    (sorted : networks.Pairwise fun left right => left.1 < right.1) :
    (insertEntry network entry networks).Pairwise fun left right => left.1 < right.1 := by
  induction networks with
  | nil => exact List.pairwise_singleton _ _
  | cons first rest ih =>
      obtain ⟨name, found⟩ := first
      obtain ⟨above, others⟩ := List.pairwise_cons.mp sorted
      unfold insertEntry
      split
      · rename_i front
        refine List.pairwise_cons.mpr ⟨fun held member => ?_, sorted⟩
        rcases List.mem_cons.mp member with rfl | later
        · exact front
        · exact String.lt_trans front (above held later)
      · rename_i behind
        split
        · rename_i same
          subst same
          exact List.pairwise_cons.mpr ⟨above, others⟩
        · rename_i apart
          refine List.pairwise_cons.mpr ⟨fun held member => ?_, ih others⟩
          rcases mem_insertEntry member with rfl | later
          · exact lt_of_not_lt_of_ne behind apart
          · exact above held later

theorem Storable.insert {manifest : Manifest} (storable : manifest.Storable) (network : String)
    {entry : NetworkEntry} (inRange : entry.InRange) :
    (manifest.insert network entry).Storable := by
  refine ⟨sorted_insertEntry network entry storable.sorted, fun held member => ?_⟩
  rcases mem_insertEntry member with rfl | before
  · exact inRange
  · exact storable.inRange held before

theorem storable_empty : empty.Storable :=
  ⟨List.Pairwise.nil, fun held member => by cases member⟩

theorem network?_cons (name network : String) (held : NetworkEntry)
    (rest : List (String × NetworkEntry)) :
    network? { networks := (name, held) :: rest } network =
      if name = network then some held else network? { networks := rest } network := by
  simp only [network?, List.find?_cons]
  by_cases same : name = network
  · simp only [same, beq_self_eq_true, if_true, Option.map_some]
  · simp only [beq_eq_false_iff_ne.mpr same, if_neg same]

theorem network?_insert_self (manifest : Manifest) (network : String) (entry : NetworkEntry) :
    (manifest.insert network entry).network? network = some entry := by
  unfold insert
  induction manifest.networks with
  | nil => simp only [insertEntry, network?_cons, if_true]
  | cons first rest ih =>
      obtain ⟨name, found⟩ := first
      simp only [insertEntry]
      split
      · rw [network?_cons, if_pos rfl]
      · split
        · rw [network?_cons, if_pos rfl]
        · rename_i apart
          rw [network?_cons, if_neg (Ne.symm apart)]
          exact ih

theorem network?_insert_other (manifest : Manifest) {network other : String}
    (apart : other ≠ network) (entry : NetworkEntry) :
    (manifest.insert network entry).network? other = manifest.network? other := by
  obtain ⟨networks⟩ := manifest
  unfold insert
  simp only
  induction networks with
  | nil =>
      simp only [insertEntry]
      rw [network?_cons, if_neg (Ne.symm apart)]
  | cons first rest ih =>
      obtain ⟨name, found⟩ := first
      simp only [insertEntry]
      split
      · rw [network?_cons, if_neg (Ne.symm apart)]
      · split
        · rename_i same
          subst same
          rw [network?_cons, network?_cons, if_neg (Ne.symm apart), if_neg (Ne.symm apart)]
        · rw [network?_cons, network?_cons, ih]

theorem insert_insert (manifest : Manifest) (network : String) (first second : NetworkEntry) :
    (manifest.insert network first).insert network second = manifest.insert network second := by
  have irrefl := String.lt_irrefl network
  unfold insert
  congr 1
  induction manifest.networks with
  | nil => simp only [insertEntry, if_neg irrefl, if_true]
  | cons held rest ih =>
      obtain ⟨name, found⟩ := held
      simp only [insertEntry]
      split
      · simp only [insertEntry, if_neg irrefl, if_true]
      · rename_i behind
        split
        · simp only [insertEntry, if_neg irrefl, if_true]
        · rename_i apart
          simp only [insertEntry, if_neg behind, if_neg apart, ih]

theorem insertEntry_last {network : String} {networks : List (String × NetworkEntry)}
    (below : ∀ held ∈ networks, held.1 < network) (entry : NetworkEntry) :
    insertEntry network entry networks = networks ++ [(network, entry)] := by
  induction networks with
  | nil => rfl
  | cons first rest ih =>
      obtain ⟨name, found⟩ := first
      have less : name < network := below (name, found) List.mem_cons_self
      have behind : ¬ network < name := fun front =>
        String.lt_irrefl name (String.lt_trans less front)
      have apart : network ≠ name := fun same => behind (same ▸ same ▸ less)
      have onward := ih fun held later => below held (List.mem_cons_of_mem _ later)
      simp only [insertEntry, if_neg behind, if_neg apart, onward, List.cons_append]

/-! ### Texts -/

/-- Sorted entries are taken up one behind the other. -/
theorem ofFields_encode {front rest : List (String × NetworkEntry)}
    (sorted : (front ++ rest).Pairwise fun left right => left.1 < right.1)
    (inRange : ∀ held ∈ rest, held.2.InRange) :
    ofFields { networks := front } (rest.map fun held => (held.1, held.2.encode)) =
      .ok { networks := front ++ rest } := by
  induction rest generalizing front with
  | nil => rw [List.append_nil]; rfl
  | cons held rest ih =>
      obtain ⟨network, entry⟩ := held
      have aside : Context.ofSetAside.Holds 3 := fun text => by cases text
      have read := NetworkEntry.decode_encode (inRange (network, entry) List.mem_cons_self) aside
      have below : ∀ held ∈ front, held.1 < network := fun held member =>
        (List.pairwise_append.mp sorted).2.2 held member (network, entry) List.mem_cons_self
      have last := insertEntry_last below entry
      have shifted : (front ++ [(network, entry)] ++ rest).Pairwise
          fun left right => left.1 < right.1 := by
        rwa [List.append_assoc, List.singleton_append]
      have onward := ih shifted fun held later => inRange held (List.mem_cons_of_mem _ later)
      simp only [List.map_cons, ofFields, read, bind, Except.bind, insert, last, onward,
        List.append_assoc, List.singleton_append]

theorem exact_entries {networks : List (String × NetworkEntry)}
    (inRange : ∀ held ∈ networks, held.2.InRange) :
    Json.ExactFields (networks.map fun held => (held.1, held.2.encode)) := by
  induction networks with
  | nil => trivial
  | cons held rest ih =>
      exact ⟨NetworkEntry.encode_exact (inRange held List.mem_cons_self),
        ih fun other later => inRange other (List.mem_cons_of_mem held later)⟩

theorem encode_exact {manifest : Manifest} (storable : manifest.Storable) :
    manifest.encode.Exact :=
  exact_entries storable.inRange

theorem depth_encode (manifest : Manifest) : manifest.encode.depth ≤ 4 := by
  have inner :
      Json.depthFields (manifest.networks.map fun held => (held.1, held.2.encode)) ≤ 3 := by
    induction manifest.networks with
    | nil => exact Nat.zero_le 3
    | cons held rest ih =>
        have one := held.2.depth_encode
        simp only [List.map_cons, Json.depthFields]
        omega
  simp only [encode, Json.depth]
  omega

theorem decode_text {manifest : Manifest} (storable : manifest.Storable) :
    Json.decodeText decoder manifest.text = .ok manifest := by
  have holds : Context.ofText.Holds manifest.encode.depth := by
    intro text
    have shallow := manifest.depth_encode
    change manifest.encode.depth ≤ 127
    omega
  have read := Json.readJson_ofJson Context.ofText manifest.encode holds
  have entries : ofFields empty (manifest.networks.map fun held => (held.1, held.2.encode)) =
      .ok manifest := ofFields_encode storable.sorted storable.inRange
  unfold text
  rw [Json.decodeText_pretty decoder (encode_exact storable)]
  unfold encode at read ⊢
  simp only [Document.ofJson] at read ⊢
  simp only [decoder, read, bind, Except.bind]
  exact entries

theorem storable_of_ofFields {manifest result : Manifest} {fields : List (String × Json)}
    (storable : manifest.Storable) (read : ofFields manifest fields = .ok result) :
    result.Storable := by
  induction fields generalizing manifest with
  | nil =>
      cases read
      exact storable
  | cons field rest ih =>
      obtain ⟨network, value⟩ := field
      unfold ofFields at read
      cases decoded : NetworkEntry.decoder Context.ofSetAside (Document.ofJson value) with
      | error fault => rw [decoded] at read; cases read
      | ok entry =>
          rw [decoded] at read
          exact ih (storable.insert network (NetworkEntry.inRange_of_decoded decoded)) read

theorem storable_of_entries {read : Except Json.Fault Json} {manifest : Manifest}
    (decoded : (do
      match ← read with
      | .object fields => ofFields empty fields
      | _ => .error .mismatched) = .ok manifest) : manifest.Storable := by
  cases read with
  | error fault => cases decoded
  | ok json =>
      simp only [bind, Except.bind] at decoded
      split at decoded
      · exact storable_of_ofFields storable_empty decoded
      · cases decoded

theorem storable_of_decoded {context : Context} {document : Document} {manifest : Manifest}
    (decoded : decoder context document = .ok manifest) : manifest.Storable := by
  unfold decoder at decoded
  split at decoded
  · exact storable_of_entries decoded
  · exact storable_of_entries decoded
  · cases decoded

end PerpDeploy.Manifest
