/-
References in the values of a settings file.

Inside a value, a name between `${` and `}` stands for the value of the variable of that name. A
default may follow the name after a colon and a minus; it is taken if there is no such variable,
and a variable that is empty is not missing. Without a default, nothing takes its place. A name
cannot hold a colon and neither part can hold a closing brace, so a reference ends at the first one,
and a dollar sign and brace that begin no reference stand for themselves. What a reference stands
for is not searched for references again.
-/

set_option autoImplicit false

namespace ShaderLint

/-- A reference to a variable. -/
structure Reference where
  name : String
  /-- What to take if there is no such variable. -/
  fallback : String
  deriving DecidableEq, Repr

namespace Reference

/-- The reference that has just been opened, and what follows it. -/
def read? (cs : List Char) : Option (Reference × List Char) :=
  let name := cs.takeWhile fun c => c != '}' && c != ':'
  match cs.drop name.length with
  | '}' :: rest => some (⟨String.ofList name, ""⟩, rest)
  | ':' :: '-' :: more =>
    let fallback := more.takeWhile (· != '}')
    match more.drop fallback.length with
    | _ :: rest => some (⟨String.ofList name, String.ofList fallback⟩, rest)
    | [] => none
  | _ => none

/-- A reference takes up at least its closing brace. -/
theorem length_of_read? {cs rest : List Char} {r : Reference} (h : read? cs = some (r, rest)) :
    rest.length < cs.length := by
  have tail {n : Nat} {c : Char} {ds : List Char} (hd : cs.drop n = c :: ds) :
      ds.length < cs.length := by
    have := congrArg List.length hd
    simp only [List.length_drop, List.length_cons] at this
    omega
  simp only [read?] at h
  split at h
  · rename_i hd
    cases h
    exact tail hd
  · rename_i more hd
    split at h
    · rename_i hm
      cases h
      have := congrArg List.length hm
      simp only [List.length_drop, List.length_cons] at this
      have := tail hd
      simp only [List.length_cons] at this
      omega
    · cases h
  · cases h

/-- Puts values in the place of the references in what is left of a text, given what is done,
backwards. -/
def expandFrom (value : Reference → String) (done : List Char) : List Char → List Char
  | [] => done.reverse
  | '$' :: '{' :: cs =>
    match h : read? cs with
    | some (r, rest) =>
      have : rest.length < cs.length := length_of_read? h
      expandFrom value ((value r).toList.reverse ++ done) rest
    | none => expandFrom value ('{' :: '$' :: done) cs
  | c :: cs => expandFrom value (c :: done) cs
termination_by cs => cs.length

/-- A text with values in the place of its references. -/
def expand (value : Reference → String) (text : String) : String :=
  String.ofList (expandFrom value [] text.toList)

/-- The references that begin anywhere in a text, even inside one another. -/
def all : List Char → List Reference
  | [] => []
  | '$' :: '{' :: cs => ((read? cs).map Prod.fst).toList ++ all cs
  | _ :: cs => all cs

end Reference

end ShaderLint
