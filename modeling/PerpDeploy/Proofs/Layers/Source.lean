/-
What the command line and the tables of a settings file set, and which values do for which kind
of setting. A flag of the command line that is not given sets nothing, and of several tables
with one name the last one counts.
-/

import PerpDeploy.Layers.Merge
import PerpDeploy.Proofs.Layers.Environment

namespace PerpDeploy

open Layers (Value)

/-- What is given on the command line. A flag that is not given sets nothing. -/
inductive Overrides.Gives (given : Overrides) : String → Value → Prop
  | nodeUrl {content : String} (is : given.nodeUrl = some content) :
      Gives given "node_url" (.text content)
  | chainId {content : String} (is : given.chainId = some content) :
      Gives given "chain_id" (.text content)
  | binary {content : String} (is : given.binary = some content) :
      Gives given "binary" (.text content)
  | keyName {content : String} (is : given.keyName = some content) :
      Gives given "key_name" (.text content)
  | keyringBackend {content : String} (is : given.keyringBackend = some content) :
      Gives given "keyring_backend" (.text content)
  | gasPrices {content : String} (is : given.gasPrices = some content) :
      Gives given "gas_prices" (.text content)
  | gasAdjustment {content : Float} (is : given.gasAdjustment = some content) :
      Gives given "gas_adjustment" (.fraction content)
  | confirmationTimeout {content : Nat} (is : given.confirmationTimeout = some content) :
      Gives given "confirmation_timeout_secs" (.whole content)
  | noWait (is : given.noWait = true) : Gives given "no_wait" (.flag true)

theorem Overrides.Gives.flag {given : Overrides} {name : String} {value : Value}
    (gives : given.Gives name value) (named : name = "no_wait") : given.noWait = true := by
  cases gives with
  | noWait is => exact is
  | nodeUrl | chainId | binary | keyName | keyringBackend | gasPrices | gasAdjustment
  | confirmationTimeout => exact absurd named (by decide)

namespace Layers

/-- The names of all settings, in the order in which the command line is laid out. -/
def settingNames : List String :=
  ["node_url", "chain_id", "binary", "key_name", "keyring_backend", "gas_prices",
    "gas_adjustment", "confirmation_timeout_secs", "no_wait"]

/-! ### The kinds of settings -/

inductive Value.IsText : Value → String → Prop
  | text (content : String) : IsText (.text content) content

inductive Value.IsFlag : Value → Bool → Prop
  | flag (content : Bool) : IsFlag (.flag content) content

/-- A whole number does for a fraction. -/
inductive Value.IsFraction : Value → Float → Prop
  | fraction (content : Float) : IsFraction (.fraction content) content
  | whole (content : Int) :
      IsFraction (.whole content) (Json.Number.toFloat (.integer content))

inductive Value.IsSeconds : Value → Nat → Prop
  | whole {seconds : Nat} (word : seconds < Nat.pow 2 64) : IsSeconds (.whole seconds) seconds

theorem Value.asText?_eq_some_iff {value : Value} {content : String} :
    value.asText? = some content ↔ value.IsText content := by
  constructor
  · intro read
    cases value with
    | text => cases read; exact .text _
    | flag | whole | fraction | list | table => cases read
  · rintro ⟨⟩
    rfl

theorem Value.asFlag?_eq_some_iff {value : Value} {content : Bool} :
    value.asFlag? = some content ↔ value.IsFlag content := by
  constructor
  · intro read
    cases value with
    | flag => cases read; exact .flag _
    | text | whole | fraction | list | table => cases read
  · rintro ⟨⟩
    rfl

theorem Value.asFraction?_eq_some_iff {value : Value} {content : Float} :
    value.asFraction? = some content ↔ value.IsFraction content := by
  constructor
  · intro read
    cases value with
    | fraction => cases read; exact .fraction _
    | whole => cases read; exact .whole _
    | text | flag | list | table => cases read
  · rintro (_ | _)
    · rfl
    · rfl

theorem Value.asSeconds?_eq_some_iff {value : Value} {seconds : Nat} :
    value.asSeconds? = some seconds ↔ value.IsSeconds seconds := by
  have limit : Int.pow 2 64 = (Nat.pow 2 64 : Nat) := by decide
  constructor
  · intro read
    cases value with
    | whole content =>
        rw [asSeconds?, limit] at read
        split at read
        · rename_i bounds
          obtain ⟨natural, rfl⟩ := Int.eq_ofNat_of_zero_le bounds.1
          cases read
          exact .whole (Int.ofNat_lt.mp bounds.2)
        · cases read
    | text | flag | fraction | list | table => cases read
  · rintro ⟨word⟩
    have bounds : (0 : Int) ≤ seconds ∧ (seconds : Int) < Int.pow 2 64 :=
      ⟨Int.natCast_nonneg seconds, limit ▸ Int.ofNat_lt.mpr word⟩
    rw [asSeconds?, if_pos bounds, Int.toNat_natCast]

/-! ### The command line -/

theorem mem_fieldOf_iff {α : Type} {key name : String} {wrap : α → Value} {content? : Option α}
    {value : Value} :
    (name, value) ∈ fieldOf key wrap content? ↔
      name = key ∧ ∃ content, content? = some content ∧ value = wrap content := by
  cases content? with
  | none => simp [fieldOf]
  | some content => simp [fieldOf]

theorem names_fieldOf_sublist {α : Type} (key : String) (wrap : α → Value) (content? : Option α) :
    ((fieldOf key wrap content?).map Prod.fst).Sublist [key] := by
  cases content? with
  | none => exact List.nil_sublist _
  | some content => exact List.Sublist.refl _

theorem names_flag_sublist (given : Bool) :
    ((if given then [("no_wait", Value.flag true)] else []).map Prod.fst).Sublist ["no_wait"] := by
  cases given with
  | false => exact List.nil_sublist _
  | true => exact List.Sublist.refl _

theorem names_given_sublist (given : Overrides) :
    (given.fields.map Prod.fst).Sublist settingNames := by
  unfold Overrides.fields
  simp only [List.map_append]
  exact (names_fieldOf_sublist "node_url" _ _).append (names_fieldOf_sublist "chain_id" _ _)
    |>.append (names_fieldOf_sublist "binary" _ _)
    |>.append (names_fieldOf_sublist "key_name" _ _)
    |>.append (names_fieldOf_sublist "keyring_backend" _ _)
    |>.append (names_fieldOf_sublist "gas_prices" _ _)
    |>.append (names_fieldOf_sublist "gas_adjustment" _ _)
    |>.append (names_fieldOf_sublist "confirmation_timeout_secs" _ _)
    |>.append (names_flag_sublist _)

theorem lookup?_given_iff {given : Overrides} {name : String} {value : Value} :
    given.fields.lookup? name = some value ↔ given.Gives name value := by
  have distinct : (given.fields.map Prod.fst).Nodup :=
    (names_given_sublist given).nodup (by decide)
  rw [Fields.lookup?_eq_some_iff_mem distinct]
  unfold Overrides.fields
  simp only [List.mem_append, mem_fieldOf_iff, List.mem_ite_nil_right, List.mem_singleton,
    Prod.mk.injEq]
  constructor
  · rintro ((((((((⟨rfl, content, is, rfl⟩ | ⟨rfl, content, is, rfl⟩) | ⟨rfl, content, is, rfl⟩) |
      ⟨rfl, content, is, rfl⟩) | ⟨rfl, content, is, rfl⟩) | ⟨rfl, content, is, rfl⟩) |
      ⟨rfl, content, is, rfl⟩) | ⟨rfl, content, is, rfl⟩) | ⟨is, rfl, rfl⟩)
    · exact .nodeUrl is
    · exact .chainId is
    · exact .binary is
    · exact .keyName is
    · exact .keyringBackend is
    · exact .gasPrices is
    · exact .gasAdjustment is
    · exact .confirmationTimeout is
    · exact .noWait is
  · intro gives
    cases gives with
    | nodeUrl is => simp [is]
    | chainId is => simp [is]
    | binary is => simp [is]
    | keyName is => simp [is]
    | keyringBackend is => simp [is]
    | gasPrices is => simp [is]
    | gasAdjustment is => simp [is]
    | confirmationTimeout is => simp [is]
    | noWait is => simp [is]

/-! ### The tables of the file -/

/-- A field of the table of a name, in any case; the last table of the name counts. -/
inductive Tables.Sets (tables : Tables) (table name : String) (value : Value) : Prop
  | last {spelled : String} {fields : Fields} (holds : fields.lookup? name = some value)
      (last : IsLast (fun entry : String × Fields => sameIgnoringCase entry.1 table = true)
        tables (spelled, fields)) :
      Tables.Sets tables table name value

theorem lookup?_named_iff {tables : Tables} {table name : String} {value : Value} :
    (tables.named table).lookup? name = some value ↔ tables.Sets table name value := by
  unfold Tables.named
  split
  · rename_i spelled fields found
    constructor
    · exact fun holds => .last holds (find?_reverse_eq_some_iff.mp found)
    · rintro ⟨holds, last⟩
      have again := find?_reverse_eq_some_iff.mpr last
      rw [found] at again
      cases again
      exact holds
  · rename_i missing
    constructor
    · exact nofun
    · rintro ⟨-, last⟩
      have found := find?_reverse_eq_some_iff.mpr last
      rw [missing] at found
      cases found

theorem Tables.sets_append_iff {tables : Tables} {entry : String × Fields} {table name : String}
    {value : Value} :
    Tables.Sets (tables ++ [entry]) table name value ↔
      (sameIgnoringCase entry.1 table = true ∧ entry.2.lookup? name = some value) ∨
        (¬ sameIgnoringCase entry.1 table = true ∧ tables.Sets table name value) := by
  constructor
  · rintro ⟨holds, last⟩
    rcases isLast_append_iff.mp last with ⟨called, same⟩ | ⟨other, last⟩
    · subst same
      exact Or.inl ⟨called, holds⟩
    · exact Or.inr ⟨other, .last holds last⟩
  · rintro (⟨called, holds⟩ | ⟨other, holds, last⟩)
    · exact .last holds (isLast_append_iff.mpr (Or.inl ⟨called, rfl⟩))
    · exact .last holds (isLast_append_iff.mpr (Or.inr ⟨other, last⟩))

/-- Tables behind others have the last word, so they keep what the others have in common. -/
theorem Tables.sets_append_congr {tables others : Tables} {table name : String}
    (alike : ∀ value, tables.Sets table name value ↔ others.Sets table name value)
    (after : Tables) (value : Value) :
    Tables.Sets (tables ++ after) table name value ↔
      Tables.Sets (others ++ after) table name value := by
  induction after using List.reverseRecOn with
  | nil =>
      rw [List.append_nil, List.append_nil]
      exact alike value
  | append_singleton after entry ih =>
      rw [← List.append_assoc, ← List.append_assoc, sets_append_iff, sets_append_iff, ih]

theorem Tables.sets_without {before after : Tables} {spelled table name : String} {fields : Fields}
    (other : sameIgnoringCase spelled table = false) (value : Value) :
    Tables.Sets (before ++ (spelled, fields) :: after) table name value ↔
      Tables.Sets (before ++ after) table name value := by
  rw [List.append_cons]
  refine sets_append_congr (fun value => ?_) after value
  rw [sets_append_iff]
  simp only [other, Bool.false_eq_true, false_and, not_false_eq_true, true_and, false_or]

theorem Tables.sets_without_field {before after : Tables} {spelled table key name : String}
    {front back : Fields} {held : Value} (differs : key ≠ name) (value : Value) :
    Tables.Sets (before ++ (spelled, front ++ (key, held) :: back) :: after) table name value ↔
      Tables.Sets (before ++ (spelled, front ++ back) :: after) table name value := by
  rw [List.append_cons, List.append_cons before (spelled, front ++ back)]
  refine sets_append_congr (fun value => ?_) after value
  rw [sets_append_iff, sets_append_iff, Fields.lookup?_without differs]

end Layers

end PerpDeploy
