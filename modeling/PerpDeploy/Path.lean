/-
Paths as text: joining, the parent, and the stem of the last name. A path is a row of
names between slashes; a slash in front makes it absolute, and slashes or single dots
behind a name mean nothing.
-/

namespace PerpDeploy

abbrev Path := String

namespace Path

/-- The pieces between slashes, empty ones and dots among them. -/
def splitSlashes : List Char → List (List Char)
  | [] => [[]]
  | c :: rest =>
      if c = '/' then [] :: splitSlashes rest
      else match splitSlashes rest with
        | [] => [[c]]
        | piece :: pieces => (c :: piece) :: pieces

def pieces (path : Path) : List String :=
  (splitSlashes path.toList).map String.ofList

def isAbsolute (path : Path) : Bool := path.toList.head? = some '/'

/-- A further path below this one; an absolute one takes its place. -/
def join (path : Path) (further : String) : Path :=
  if isAbsolute further then further
  else if path.isEmpty then further
  else if path.toList.getLast? = some '/' then path ++ further
  else path ++ "/" ++ further

private def dropEnding : List Char → List Char
  | ['/'] => ['/']
  | '/' :: rest => dropEnding rest
  | '.' :: '/' :: rest => dropEnding ('/' :: rest)
  | chars => chars

private def dropName : List Char → List Char
  | [] => []
  | c :: rest => if c = '/' then c :: rest else dropName rest

/-- The path without its last name, unless it has none. -/
def parent? (path : Path) : Option Path :=
  match dropEnding path.toList.reverse with
  | [] => none
  | ['/'] => none
  | chars => some (String.ofList (dropEnding (dropName chars)).reverse)

def fileName? (path : Path) : Option String :=
  match dropEnding path.toList.reverse with
  | ['/'] => none
  | chars =>
      let name := String.ofList (chars.takeWhile (· ≠ '/')).reverse
      if name = "" ∨ name = "." ∨ name = ".." then none else some name

/-- The name at the end of a path, with nothing before it or a slash. -/
theorem fileName?_of_name {path : Path} {front : List Char} {name : String}
    (shape : path.toList = front ++ name.toList) (apart : front = [] ∨ front.getLast? = some '/')
    (whole : '/' ∉ name.toList) {last : Char} (ends : name.toList.getLast? = some last)
    (undotted : last ≠ '.') : path.fileName? = some name := by
  obtain ⟨init, chars⟩ := List.getLast?_eq_some_iff.mp ends
  have unslashed : last ≠ '/' := fun same => whole (by rw [chars, same]; simp)
  have reversed : path.toList.reverse = last :: (init.reverse ++ front.reverse) := by
    rw [shape, chars]
    simp
  have kept : dropEnding (last :: (init.reverse ++ front.reverse)) =
      last :: (init.reverse ++ front.reverse) := by
    unfold dropEnding
    split <;> simp_all
  have taken : (last :: (init.reverse ++ front.reverse)).takeWhile (· ≠ '/') =
      name.toList.reverse := by
    have clean : ∀ c ∈ name.toList.reverse, decide (c ≠ '/') = true := fun c member =>
      decide_eq_true fun same => whole (same ▸ List.mem_reverse.mp member)
    have split : last :: (init.reverse ++ front.reverse) =
        name.toList.reverse ++ front.reverse := by
      rw [chars]
      simp
    rw [split, List.takeWhile_append_of_pos clean]
    rcases apart with rfl | slash
    · simp
    · obtain ⟨before, rfl⟩ := List.getLast?_eq_some_iff.mp slash
      simp
  have named : ¬ (name = "" ∨ name = "." ∨ name = "..") := by
    rintro (rfl | rfl | rfl)
    · cases ends
    · exact undotted (Option.some.inj ends).symm
    · exact undotted (Option.some.inj ends).symm
  unfold fileName?
  rw [reversed, kept]
  split
  · rename_i slash
    exact absurd (List.cons.inj slash).1 unslashed
  · rw [taken, List.reverse_reverse, String.ofList_toList, if_neg named]

/-- A name is found behind whatever it is joined to. -/
theorem fileName?_join (path : Path) {name : String} (whole : '/' ∉ name.toList) {last : Char}
    (ends : name.toList.getLast? = some last) (undotted : last ≠ '.') :
    (path.join name).fileName? = some name := by
  have relative : isAbsolute name = false := by
    unfold isAbsolute
    cases chars : name.toList with
    | nil => rfl
    | cons first rest =>
        rw [chars, List.mem_cons, not_or] at whole
        simpa using Ne.symm whole.1
  unfold join
  rw [relative, if_neg Bool.false_ne_true]
  split
  · exact fileName?_of_name (List.nil_append _).symm (Or.inl rfl) whole ends undotted
  · split
    · rename_i slash
      exact fileName?_of_name String.toList_append (Or.inr slash) whole ends undotted
    · have shape : (path ++ "/" ++ name).toList = (path.toList ++ ['/']) ++ name.toList := by simp
      exact fileName?_of_name shape (Or.inr (by simp)) whole ends undotted

/-- The last name up to its last dot; a dot in front does not count. -/
def stem (path : Path) : String :=
  match fileName? path with
  | none => ""
  | some name =>
      let reversed := name.toList.reverse
      match reversed.dropWhile (· ≠ '.') with
      | _ :: front@(_ :: _) => String.ofList front.reverse
      | _ => name

end Path

end PerpDeploy
