import DashboardSurvey.Files.Name
import DashboardSurvey.Files.Path

/-!
# The environment

Texts in the settings may start with a tilde, for a home directory, and may name variables of the
environment.

* `Environment` — the variables, and the home directories of users.
* `Environment.expandTilde` — a text with its tilde replaced.
* `Environment.expandNames` — a text with the variables that it names replaced; what replaces them
  is not looked at again.
* `Environment.expand` — both.
* `Environment.expandFault?` — why the host cannot be asked for a name in the text.
-/

namespace DashboardSurvey

/-- The variables, and the home directories of users by name. -/
structure Environment where
  bindings : List (String × String)
  homes : List (String × String)

namespace Environment

/-- The value of a variable. -/
def find? (e : Environment) (name : String) : Option String := e.bindings.lookup name

/-! ## Tildes -/

/-- The home directory that a tilde with a name means; the empty name means one's own. -/
def home? (e : Environment) (user : List Char) : Option String :=
  if user.isEmpty then e.find? "HOME" <|> e.homes.lookup ""
  else e.homes.lookup (String.ofList user)

/-- The characters without the slashes at their end. -/
def dropSlashes (cs : List Char) : List Char := (cs.reverse.dropWhile (· = '/')).reverse

/-- A text with its tilde replaced, if it starts with one and the home directory is known. -/
def expandTilde (e : Environment) (cs : List Char) : List Char :=
  match cs with
  | '~' :: rest =>
    match e.home? (rest.takeWhile (· ≠ '/')) with
    | none => cs
    | some home =>
      let expanded := dropSlashes home.toList ++ rest.dropWhile (· ≠ '/')
      if expanded.isEmpty then ['/'] else expanded
  | _ => cs

/-! ## Variables -/

/-- May the character stand in a name that is not between braces? -/
def isNameChar (c : Char) : Bool := c.isAlphanum || c = '_'

/-- What follows a dollar sign: the name of a variable, how it is written, and the rest. -/
structure Named where
  name : List Char
  written : List Char
  rest : List Char

/-- The variable that is named after a dollar sign, plainly or between braces. -/
def named? (cs : List Char) : Option Named :=
  match cs with
  | '\x7b' :: body =>
    match body.dropWhile (· ≠ '\x7d') with
    | [] => none
    | close :: rest =>
      let name := body.takeWhile (· ≠ '\x7d')
      some ⟨name, '\x7b' :: name ++ [close], rest⟩
  | cs =>
    let name := cs.takeWhile isNameChar
    if name.isEmpty then none else some ⟨name, name, cs.dropWhile isNameChar⟩

/-- What follows a name is no longer than what held it. -/
theorem length_named? {cs : List Char} {n : Named} (h : named? cs = some n) :
    n.rest.length ≤ cs.length := by
  unfold named? at h
  split at h
  · rename_i body
    split at h
    · exact nomatch h
    · rename_i close rest hd
      have hs := (List.dropWhile_suffix (l := body) (· ≠ '\x7d')).length_le
      rw [hd] at hs
      simp only [Option.some.injEq] at h
      subst h
      simp only [List.length_cons] at hs ⊢
      omega
  · dsimp only at h
    split at h
    · exact nomatch h
    · simp only [Option.some.injEq] at h
      subst h
      exact (List.dropWhile_suffix isNameChar).length_le

/-- A text with the variables that it names replaced by their values.  A name that no variable has
stays. -/
def expandNames (e : Environment) (cs : List Char) : List Char :=
  match cs with
  | [] => []
  | c :: rest =>
    if c = '$' then
      match _found : named? rest with
      | none => c :: expandNames e rest
      | some n =>
        match e.find? (String.ofList n.name) with
        | none => c :: n.written ++ expandNames e n.rest
        | some value => value.toList ++ expandNames e n.rest
    else c :: expandNames e rest
  termination_by cs.length
  decreasing_by
    all_goals simp only [List.length_cons]
    · omega
    · have := length_named? _found
      omega
    · have := length_named? _found
      omega
    · omega

/-- A text with its tilde and then the variables that it names replaced. -/
def expand (e : Environment) (s : String) : String :=
  String.ofList (e.expandNames (e.expandTilde s.toList))

/-! ## Names that cannot be asked for -/

/-- What is wrong with the user that a tilde means, if anything is. -/
def tildeFault? : List Char → Option NameFault
  | '~' :: rest => userFault? (rest.takeWhile (· ≠ '/'))
  | _ => none

/-- What is wrong with the first of the named variables with which anything is. -/
def namesFault? (cs : List Char) : Option NameFault :=
  match cs with
  | [] => none
  | c :: rest =>
    if c = '$' then
      match _found : named? rest with
      | none => namesFault? rest
      | some n => halvesFault? n.name <|> namesFault? n.rest
    else namesFault? rest
  termination_by cs.length
  decreasing_by
    all_goals simp only [List.length_cons]
    · omega
    · have := length_named? _found
      omega
    · omega

/-- Why the host cannot be asked for a name in the text, if it cannot: first comes the user, then the
variables in order. -/
def expandFault? (e : Environment) (s : String) : Option NameFault :=
  tildeFault? s.toList <|> namesFault? (e.expandTilde s.toList)

end Environment

end DashboardSurvey
