/-
Written JSON values are read back. The two written forms differ only in the blanks between
their marks, so they are treated as one form with a layout that says which blanks stand
where. Doubles are left out: a value is exact if all its numbers are whole and fit in
sixty-four bits.
-/

import PerpDeploy.Proofs.Json.Numeral
import PerpDeploy.Proofs.Json.Quotation

namespace PerpDeploy.Json

/-- The blanks of a written form. -/
structure Layout where
  /-- In front of an item or a field of that level, and in front of the bracket that closes it. -/
  gap : Nat → List Char
  /-- Behind a colon. -/
  space : List Char
  gap_blank : ∀ level, (gap level).all isJsonBlank
  space_blank : space.all isJsonBlank

mutual

def Layout.chars (layout : Layout) (level : Nat) : Json → List Char
  | .null => "null".toList
  | .bool true => "true".toList
  | .bool false => "false".toList
  | .number value => value.text.toList
  | .string value => stringChars value
  | .array [] => ['[', ']']
  | .array (item :: rest) =>
      '[' :: (layout.gap (level + 1) ++
        (layout.items (level + 1) (item :: rest) ++ (layout.gap level ++ [']'])))
  | .object [] => ['\x7b', '\x7d']
  | .object (field :: rest) =>
      '\x7b' :: (layout.gap (level + 1) ++
        '"' :: (layout.fields (level + 1) (field :: rest) ++ (layout.gap level ++ ['\x7d'])))

def Layout.items (layout : Layout) (level : Nat) : List Json → List Char
  | [] => []
  | [item] => layout.chars level item
  | item :: rest =>
      layout.chars level item ++ ',' :: (layout.gap level ++ layout.items level rest)

/-- Behind the opening quote of the first name. -/
def Layout.fields (layout : Layout) (level : Nat) : List (String × Json) → List Char
  | [] => []
  | [(name, value)] =>
      name.toList.flatMap escapedCharacter ++
        '"' :: ':' :: (layout.space ++ layout.chars level value)
  | (name, value) :: rest =>
      name.toList.flatMap escapedCharacter ++
        '"' :: ':' :: (layout.space ++ (layout.chars level value ++
          ',' :: (layout.gap level ++ '"' :: layout.fields level rest)))

end

mutual

def Exact : Json → Prop
  | .number (.integer value) => InWords value
  | .number (.float _) => False
  | .array items => ExactItems items
  | .object fields => ExactFields fields
  | _ => True

def ExactItems : List Json → Prop
  | [] => True
  | item :: rest => Exact item ∧ ExactItems rest

def ExactFields : List (String × Json) → Prop
  | [] => True
  | (_, value) :: rest => Exact value ∧ ExactFields rest

end

/-! ### Blanks -/

theorem skipBlanks_append {blanks : List Char} (blank : blanks.all isJsonBlank)
    (rest : List Char) : skipBlanks (blanks ++ rest) = skipBlanks rest :=
  List.dropWhile_append_of_pos (List.all_eq_true.mp blank)

theorem skipBlanks_cons {c : Char} (solid : isJsonBlank c = false) (rest : List Char) :
    skipBlanks (c :: rest) = c :: rest :=
  List.dropWhile_cons_of_neg (by rw [solid]; exact Bool.false_ne_true)

theorem readValue_append {blanks : List Char} (blank : blanks.all isJsonBlank) (fuel : Nat)
    (rest : List Char) : readValue fuel (blanks ++ rest) = readValue fuel rest := by
  cases fuel with
  | zero => rfl
  | succ fuel => simp only [readValue, skipBlanks_append blank]

theorem endsNumber_of_mark {c : Char} (mark : c = ',' ∨ c = ']' ∨ c = '\x7d' ∨ isJsonBlank c)
    (rest : List Char) : EndsNumber (c :: rest) := by
  intro head same
  obtain rfl : c = head := Option.some.inj same
  simp only [isJsonBlank, Bool.or_eq_true, decide_eq_true_eq] at mark
  rcases mark with rfl | rfl | rfl | ((rfl | rfl) | rfl) | rfl <;> decide

theorem endsNumber_of_gap {blanks : List Char} (blank : blanks.all isJsonBlank) {c : Char}
    (mark : c = ',' ∨ c = ']' ∨ c = '\x7d') (rest : List Char) :
    EndsNumber (blanks ++ c :: rest) := by
  cases blanks with
  | nil =>
      refine endsNumber_of_mark ?_ rest
      rcases mark with comma | bracket | brace
      · exact Or.inl comma
      · exact Or.inr (Or.inl bracket)
      · exact Or.inr (Or.inr (Or.inl brace))
  | cons first others =>
      have one := List.all_eq_true.mp blank first List.mem_cons_self
      exact endsNumber_of_mark (Or.inr (Or.inr (Or.inr one))) _

/-! ### Reading one value -/

theorem solid_of_isDigit {c : Char} (digit : c.isDigit) : isJsonBlank c = false := by
  rw [Bool.eq_false_iff]
  intro blank
  simp only [isJsonBlank, Bool.or_eq_true, decide_eq_true_eq] at blank
  rcases blank with ((rfl | rfl) | rfl) | rfl <;> exact absurd digit (by decide)

theorem readValue_digit {c : Char} (digit : c.isDigit) (fuel : Nat) (rest : List Char) :
    readValue (fuel + 1) (c :: rest) = readNumber false (c :: rest) := by
  have other : ∀ d : Char, d.isDigit = false → c ≠ d := by
    intro d letter same
    rw [same, letter] at digit
    cases digit
  unfold readValue
  rw [skipBlanks_cons (solid_of_isDigit digit)]
  split <;> rename_i same
  · cases same
  · exact absurd (List.cons.inj same).1 (other _ rfl)
  · exact absurd (List.cons.inj same).1 (other _ rfl)
  · exact absurd (List.cons.inj same).1 (other _ rfl)
  · exact absurd (List.cons.inj same).1 (other _ rfl)
  · exact absurd (List.cons.inj same).1 (other _ rfl)
  · exact absurd (List.cons.inj same).1 (other _ rfl)
  · exact absurd (List.cons.inj same).1 (other _ rfl)
  · obtain ⟨rfl, rfl⟩ := List.cons.inj same
    rw [digitValue?_of_isDigit digit]
    rfl

theorem readValue_integer {value : Int} (words : InWords value) {rest : List Char}
    (ends : EndsNumber rest) (fuel : Nat) :
    readValue (fuel + 1) ((Number.integer value).text.toList ++ rest) =
      (.number (some (.integer value)), some rest) := by
  unfold InWords at words
  rw [wordLimit_eq, signedLimit_eq] at words
  rcases Int.lt_or_le value 0 with negative | nonnegative
  · rw [text_of_negative negative]
    have digits := readNumber_toDigits true (-value).toNat ends
    have short : (-value).toNat ≤ 9223372036854775808 := by omega
    change readNumber true (Nat.toDigits 10 (-value).toNat ++ rest) = _
    rw [digits, finishNumber, number?_of_negative_digits (by omega) short]
    have back : -((-value).toNat : Int) = value := by omega
    rw [back]
  · rw [text_of_nonnegative nonnegative]
    have digits := readNumber_toDigits false value.toNat ends
    have small : value.toNat < 18446744073709551616 := by omega
    cases first : Nat.toDigits 10 value.toNat with
    | nil => exact absurd first Nat.toDigits_ne_nil
    | cons c tail =>
        have digit : c.isDigit := Nat.isDigit_of_mem_toDigits (b := 10) (n := value.toNat)
          (by decide) (by decide) (by rw [first]; exact List.mem_cons_self)
        rw [List.cons_append, readValue_digit digit, ← List.cons_append, ← first, digits,
          finishNumber, number?_of_digits _ small, Int.toNat_of_nonneg nonnegative]

theorem readValue_string (text : String) (rest : List Char) (fuel : Nat) :
    readValue (fuel + 1) (stringChars text ++ rest) = (.string (some text), some rest) := by
  have read := readString_escaped text rest
  have opened : stringChars text ++ rest =
      '"' :: (text.toList.flatMap escapedCharacter ++ '"' :: rest) := by
    simp only [stringChars, List.cons_append, List.append_assoc, List.nil_append]
  rw [opened]
  change readStringValue _ = _
  simp only [readStringValue, read]

theorem readValue_bracket {text : List Char} {c : Char} {tail : List Char}
    (first : skipBlanks text = c :: tail) (content : c ≠ ']') (fuel : Nat) :
    readValue (fuel + 1) ('[' :: text) =
      (.array (readItems fuel (c :: tail)).1 (readItems fuel (c :: tail)).2.1,
        (readItems fuel (c :: tail)).2.2) := by
  unfold readValue
  rw [skipBlanks_cons rfl]
  simp only [first]
  split <;> rename_i same
  · cases same
  · exact absurd (List.cons.inj same).1 content
  · rfl

theorem readValue_brace {text tail : List Char} (first : skipBlanks text = '"' :: tail)
    (fuel : Nat) :
    readValue (fuel + 1) ('\x7b' :: text) =
      (.object (readFields fuel tail).1 (readFields fuel tail).2.1,
        (readFields fuel tail).2.2) := by
  unfold readValue
  rw [skipBlanks_cons rfl]
  simp only [first]

/-! ### Reading what is written -/

theorem chars_head (layout : Layout) (level : Nat) {json : Json} (exact : json.Exact) :
    ∃ c tail, layout.chars level json = c :: tail ∧ isJsonBlank c = false ∧ c ≠ ']' := by
  cases json with
  | null => exact ⟨'n', "ull".toList, rfl, rfl, by decide⟩
  | bool value =>
      cases value with
      | true => exact ⟨'t', "rue".toList, rfl, rfl, by decide⟩
      | false => exact ⟨'f', "alse".toList, rfl, rfl, by decide⟩
  | number value =>
      cases value with
      | float value => cases exact
      | integer value =>
          rcases Int.lt_or_le value 0 with negative | nonnegative
          · exact ⟨'-', _, text_of_negative negative, rfl, by decide⟩
          · have text := text_of_nonnegative nonnegative
            cases first : Nat.toDigits 10 value.toNat with
            | nil => exact absurd first Nat.toDigits_ne_nil
            | cons c tail =>
                have digit : c.isDigit := Nat.isDigit_of_mem_toDigits (b := 10)
                  (n := value.toNat) (by decide) (by decide)
                  (by rw [first]; exact List.mem_cons_self)
                refine ⟨c, tail, by rw [← first, ← text]; rfl, solid_of_isDigit digit, ?_⟩
                rintro rfl
                cases digit
  | string text => exact ⟨'"', _, rfl, rfl, by decide⟩
  | array items => cases items <;> exact ⟨'[', _, rfl, rfl, by decide⟩
  | object fields => cases fields <;> exact ⟨'\x7b', _, rfl, rfl, by decide⟩

theorem items_more (layout : Layout) (level : Nat) (item next : Json) (more : List Json) :
    layout.items level (item :: next :: more) =
      layout.chars level item ++
        ',' :: (layout.gap level ++ layout.items level (next :: more)) := by
  rw [Layout.items]
  exact List.cons_ne_nil next more

theorem fields_more (layout : Layout) (level : Nat) (name : String) (value : Json)
    (next : String × Json) (more : List (String × Json)) :
    layout.fields level ((name, value) :: next :: more) =
      name.toList.flatMap escapedCharacter ++
        '"' :: ':' :: (layout.space ++ (layout.chars level value ++
          ',' :: (layout.gap level ++ '"' :: layout.fields level (next :: more)))) := by
  rw [Layout.fields]
  exact List.cons_ne_nil next more

theorem items_head (layout : Layout) (level : Nat) {items : List Json} (nonempty : items ≠ [])
    (exact : ExactItems items) (rest : List Char) :
    ∃ c tail, layout.items level items ++ rest = c :: tail ∧ isJsonBlank c = false ∧ c ≠ ']' := by
  match items with
  | [] => exact absurd rfl nonempty
  | [item] =>
      obtain ⟨c, tail, first, solid, content⟩ := chars_head layout level exact.1
      exact ⟨c, tail ++ rest, by rw [Layout.items, first]; rfl, solid, content⟩
  | item :: next :: more =>
      obtain ⟨c, tail, first, solid, content⟩ := chars_head layout level exact.1
      exact ⟨c, _, by rw [items_more, first]; rfl, solid, content⟩

/-- Two steps for each character are enough to read a value. -/
def ReadsValues (layout : Layout) (fuel : Nat) : Prop :=
  ∀ (json : Json) (level : Nat) (rest : List Char), json.Exact → EndsNumber rest →
    2 * (layout.chars level json).length ≤ fuel →
    readValue fuel (layout.chars level json ++ rest) = (Document.ofJson json, some rest)

def ReadsItems (layout : Layout) (fuel : Nat) : Prop :=
  ∀ (items : List Json) (level outer : Nat) (rest : List Char), items ≠ [] → ExactItems items →
    2 * (layout.items level items).length + 1 ≤ fuel →
    readItems fuel (layout.items level items ++ (layout.gap outer ++ ']' :: rest)) =
      (Document.ofItems items, .closed, some rest)

def ReadsFields (layout : Layout) (fuel : Nat) : Prop :=
  ∀ (fields : List (String × Json)) (level outer : Nat) (rest : List Char), fields ≠ [] →
    ExactFields fields → 2 * (layout.fields level fields).length + 1 ≤ fuel →
    readFields fuel (layout.fields level fields ++ (layout.gap outer ++ '\x7d' :: rest)) =
      (Document.ofFields fields, .closed, some rest)

theorem readsValues_succ {layout : Layout} {fuel : Nat} (items : ReadsItems layout fuel)
    (fields : ReadsFields layout fuel) : ReadsValues layout (fuel + 1) := by
  intro json level rest exact ends enough
  cases json with
  | null => rfl
  | bool value => cases value <;> rfl
  | number number =>
      cases number with
      | float value => cases exact
      | integer value => exact readValue_integer exact ends fuel
  | string text => exact readValue_string text rest fuel
  | array list =>
      cases list with
      | nil => rfl
      | cons item more =>
          have nonempty : item :: more ≠ [] := List.cons_ne_nil item more
          obtain ⟨c, tail, first, solid, content⟩ := items_head layout (level + 1) nonempty exact
            (layout.gap level ++ ']' :: rest)
          have front : skipBlanks (layout.gap (level + 1) ++
              (layout.items (level + 1) (item :: more) ++ (layout.gap level ++ ']' :: rest))) =
                c :: tail := by
            rw [skipBlanks_append (layout.gap_blank _), first, skipBlanks_cons solid]
          have read := items (item :: more) (level + 1) level rest nonempty exact (by
            simp only [Layout.chars, List.length_cons, List.length_append] at enough
            omega)
          simp only [Layout.chars, List.cons_append, List.append_assoc, List.nil_append]
          rw [readValue_bracket front content, ← first, read]
          rfl
  | object list =>
      cases list with
      | nil => rfl
      | cons field more =>
          have nonempty : field :: more ≠ [] := List.cons_ne_nil field more
          have front : skipBlanks (layout.gap (level + 1) ++
              '"' :: (layout.fields (level + 1) (field :: more) ++
                (layout.gap level ++ '\x7d' :: rest))) =
                '"' :: (layout.fields (level + 1) (field :: more) ++
                  (layout.gap level ++ '\x7d' :: rest)) := by
            rw [skipBlanks_append (layout.gap_blank _), skipBlanks_cons rfl]
          have read := fields (field :: more) (level + 1) level rest nonempty exact (by
            simp only [Layout.chars, List.length_cons, List.length_append] at enough
            omega)
          simp only [Layout.chars, List.cons_append, List.append_assoc, List.nil_append]
          rw [readValue_brace front, read]
          rfl

theorem readsItems_succ {layout : Layout} {fuel : Nat} (values : ReadsValues layout fuel)
    (items : ReadsItems layout fuel) : ReadsItems layout (fuel + 1) := by
  intro list level outer rest nonempty exact enough
  match list with
  | [] => exact absurd rfl nonempty
  | [item] =>
      have read := values item level (layout.gap outer ++ ']' :: rest) exact.1
        (endsNumber_of_gap (layout.gap_blank outer) (Or.inr (Or.inl rfl)) rest)
        (by simp only [Layout.items] at enough; omega)
      simp only [Layout.items, readItems, read, skipBlanks_append (layout.gap_blank outer),
        skipBlanks_cons (show isJsonBlank ']' = false from rfl)]
      rfl
  | item :: next :: more =>
      have behind : next :: more ≠ [] := List.cons_ne_nil next more
      obtain ⟨c, tail, first, solid, content⟩ := items_head layout level behind exact.2
        (layout.gap outer ++ ']' :: rest)
      rw [items_more] at enough ⊢
      simp only [List.length_append, List.length_cons] at enough
      simp only [List.append_assoc, List.cons_append]
      have read := values item level
        (',' :: (layout.gap level ++ (layout.items level (next :: more) ++
          (layout.gap outer ++ ']' :: rest))))
        exact.1 (endsNumber_of_mark (Or.inl rfl) _) (by omega)
      have onward := items (next :: more) level outer rest behind exact.2 (by omega)
      rw [first] at onward read ⊢
      simp only [readItems, read, skipBlanks_cons (show isJsonBlank ',' = false from rfl),
        skipBlanks_append (layout.gap_blank level), skipBlanks_cons solid]
      split
      · rename_i same
        cases same
      · rename_i same
        exact absurd (List.cons.inj same).1 content
      · simp only [onward]
        rfl

theorem readsFields_succ {layout : Layout} {fuel : Nat} (values : ReadsValues layout fuel)
    (fields : ReadsFields layout fuel) : ReadsFields layout (fuel + 1) := by
  intro list level outer rest nonempty exact enough
  match list with
  | [] => exact absurd rfl nonempty
  | [(name, value)] =>
      have read := values value level (layout.gap outer ++ '\x7d' :: rest) exact.1
        (endsNumber_of_gap (layout.gap_blank outer) (Or.inr (Or.inr rfl)) rest)
        (by simp only [Layout.fields, List.length_append, List.length_cons] at enough; omega)
      simp only [Layout.fields, List.append_assoc, List.cons_append, readFields,
        readString_escaped, skipBlanks_cons (show isJsonBlank ':' = false from rfl),
        readValue_append layout.space_blank, read, skipBlanks_append (layout.gap_blank outer),
        skipBlanks_cons (show isJsonBlank '\x7d' = false from rfl)]
      rfl
  | (name, value) :: next :: more =>
      have behind : next :: more ≠ [] := List.cons_ne_nil next more
      rw [fields_more] at enough ⊢
      simp only [List.length_append, List.length_cons] at enough
      have read := values value level
        (',' :: (layout.gap level ++ '"' :: (layout.fields level (next :: more) ++
          (layout.gap outer ++ '\x7d' :: rest)))) exact.1 (endsNumber_of_mark (Or.inl rfl) _)
        (by omega)
      have onward := fields (next :: more) level outer rest behind exact.2 (by omega)
      simp only [List.append_assoc, List.cons_append, readFields, readString_escaped,
        skipBlanks_cons (show isJsonBlank ':' = false from rfl),
        readValue_append layout.space_blank, read,
        skipBlanks_cons (show isJsonBlank ',' = false from rfl),
        skipBlanks_append (layout.gap_blank level),
        skipBlanks_cons (show isJsonBlank '"' = false from rfl), onward]
      rfl

theorem reads_all (layout : Layout) (fuel : Nat) :
    ReadsValues layout fuel ∧ ReadsItems layout fuel ∧ ReadsFields layout fuel := by
  -- The three readers call one another with less fuel, so the induction is on all of them.
  induction fuel with
  | zero =>
      refine ⟨fun json level rest exact ends enough => ?_,
        fun items level outer rest _ _ enough => ?_,
        fun fields level outer rest _ _ enough => ?_⟩
      · obtain ⟨c, tail, first, _⟩ := chars_head layout level exact
        rw [first, List.length_cons] at enough
        omega
      · omega
      · omega
  | succ fuel ih =>
      obtain ⟨values, items, fields⟩ := ih
      exact ⟨readsValues_succ items fields, readsItems_succ values items,
        readsFields_succ values fields⟩

theorem read_chars (layout : Layout) {json : Json} (exact : json.Exact) :
    Document.read (String.ofList (layout.chars 0 json)) = (Document.ofJson json, some []) := by
  have read := (reads_all layout (2 * (layout.chars 0 json).length + 2)).1 json 0 [] exact
    (fun c head => by cases head) (by omega)
  rw [List.append_nil] at read
  simp only [Document.read, String.toList_ofList, read]

/-! ### The two written forms -/

def Layout.pretty : Layout :=
  { gap := lineStart
    space := [' ']
    gap_blank := fun level => by
      simp only [lineStart, List.all_cons, List.all_replicate]
      split <;> rfl
    space_blank := rfl }

def Layout.compact : Layout :=
  { gap := fun _ => [], space := [], gap_blank := fun _ => rfl, space_blank := rfl }

mutual

theorem prettyChars_eq (level : Nat) :
    (json : Json) → prettyChars level json = Layout.pretty.chars level json
  | .null => rfl
  | .bool true => rfl
  | .bool false => rfl
  | .number _ => rfl
  | .string _ => rfl
  | .array [] => rfl
  | .array (item :: rest) => by
      have inner := prettyItems_eq (level + 1) (item :: rest) (List.cons_ne_nil item rest)
      simp only [prettyChars, Layout.chars, inner, List.append_assoc, List.cons_append]
      rfl
  | .object [] => rfl
  | .object (field :: rest) => by
      have inner := prettyFields_eq (level + 1) (field :: rest) (List.cons_ne_nil field rest)
      simp only [prettyChars, Layout.chars, inner, List.append_assoc, List.cons_append]
      rfl

theorem prettyItems_eq (level : Nat) : (items : List Json) → items ≠ [] →
    prettyItems level items = lineStart level ++ Layout.pretty.items level items
  | [], nonempty => absurd rfl nonempty
  | [item], _ => by simp only [prettyItems, Layout.items, prettyChars_eq level item]
  | item :: next :: more, _ => by
      have onward := prettyItems_eq level (next :: more) (List.cons_ne_nil next more)
      rw [items_more, prettyItems, prettyChars_eq level item, onward]
      · simp only [List.append_assoc]
        rfl
      · exact List.cons_ne_nil next more

theorem prettyFields_eq (level : Nat) : (fields : List (String × Json)) → fields ≠ [] →
    prettyFields level fields =
      lineStart level ++ '"' :: Layout.pretty.fields level fields
  | [], nonempty => absurd rfl nonempty
  | [(name, value)], _ => by
      simp only [prettyFields, Layout.fields, prettyChars_eq level value, stringChars,
        List.append_assoc, List.cons_append]
      rfl
  | (name, value) :: next :: more, _ => by
      have onward := prettyFields_eq level (next :: more) (List.cons_ne_nil next more)
      rw [fields_more, prettyFields, prettyChars_eq level value, onward]
      · simp only [stringChars, List.append_assoc, List.cons_append]
        rfl
      · exact List.cons_ne_nil next more

end

mutual

theorem compactChars_eq (level : Nat) :
    (json : Json) → compactChars json = Layout.compact.chars level json
  | .null => rfl
  | .bool true => rfl
  | .bool false => rfl
  | .number _ => rfl
  | .string _ => rfl
  | .array [] => rfl
  | .array (item :: rest) => by
      simp only [compactChars, Layout.chars, compactItems_eq (level + 1) (item :: rest)]
      rfl
  | .object [] => rfl
  | .object (field :: rest) => by
      have inner := compactFields_eq (level + 1) (field :: rest) (List.cons_ne_nil field rest)
      simp only [compactChars, Layout.chars, inner, List.cons_append]
      rfl

theorem compactItems_eq (level : Nat) :
    (items : List Json) → compactItems items = Layout.compact.items level items
  | [] => rfl
  | [item] => by simp only [compactItems, Layout.items, compactChars_eq level item]
  | item :: next :: more => by
      rw [items_more, compactItems, compactChars_eq level item,
        compactItems_eq level (next :: more)]
      · rfl
      · exact List.cons_ne_nil next more

theorem compactFields_eq (level : Nat) : (fields : List (String × Json)) → fields ≠ [] →
    compactFields fields = '"' :: Layout.compact.fields level fields
  | [], nonempty => absurd rfl nonempty
  | [(name, value)], _ => by
      simp only [compactFields, Layout.fields, compactChars_eq level value, stringChars,
        List.append_assoc, List.cons_append]
      rfl
  | (name, value) :: next :: more, _ => by
      have onward := compactFields_eq level (next :: more) (List.cons_ne_nil next more)
      rw [fields_more, compactFields, compactChars_eq level value, onward]
      · simp only [stringChars, List.append_assoc, List.cons_append]
        rfl
      · exact List.cons_ne_nil next more

end

theorem read_pretty {json : Json} (exact : json.Exact) :
    Document.read json.pretty = (Document.ofJson json, some []) := by
  rw [Json.pretty, prettyChars_eq]
  exact read_chars Layout.pretty exact

theorem read_compact {json : Json} (exact : json.Exact) :
    Document.read json.compact = (Document.ofJson json, some []) := by
  rw [Json.compact, compactChars_eq 0]
  exact read_chars Layout.compact exact

end PerpDeploy.Json
