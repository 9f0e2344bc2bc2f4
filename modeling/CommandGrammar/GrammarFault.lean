/-!
# Faults of a grammar

What can be wrong with the parts a grammar is built from. Each fault names the text at fault.
-/

namespace CommandGrammar

/-- Why a part of a grammar is refused. -/
inductive GrammarFault where
  /-- A pattern is not a regular expression. -/
  | invalidPattern (source : String)
  /-- Two slots of one list share a name. -/
  | duplicateArgument (name : String)
  /-- Two children of one parent share a name. -/
  | duplicateName (name parent : String)
  /-- Something has no name. -/
  | emptyName
  /-- A separator has no character. -/
  | emptySeparator
  deriving DecidableEq, Repr

/-- The message for a fault. -/
def GrammarFault.message : GrammarFault → String
  | invalidPattern source => s!"invalid pattern `{source}`"
  | duplicateArgument name => s!"duplicate argument name `{name}`"
  | duplicateName name parent => s!"duplicate name `{name}` under `{parent}`"
  | emptyName => "empty name"
  | emptySeparator => "empty separator"

/-- The first name in a list that stands in it before. -/
def firstRepeated? : List String → Option String
  | names => go [] names
where
  /-- The same, with the names already passed. -/
  go (seen : List String) : List String → Option String
    | [] => none
    | name :: rest => if seen.contains name then some name else go (name :: seen) rest

/-- No name is repeated from some point on exactly when the names left differ from each other
and from those passed. -/
theorem firstRepeated?_go_eq_none {seen names : List String} :
    firstRepeated?.go seen names = none ↔ (∀ name ∈ names, name ∉ seen) ∧ names.Nodup := by
  induction names generalizing seen with
  | nil => simp [firstRepeated?.go]
  | cons name rest ih =>
    unfold firstRepeated?.go
    by_cases h : name ∈ seen
    · simp [h]
    · simp only [List.contains_iff_mem, h, if_false, ih, List.mem_cons, List.nodup_cons]
      grind

/-- No name is repeated exactly when all names of a list differ. -/
theorem firstRepeated?_eq_none {names : List String} :
    firstRepeated? names = none ↔ names.Nodup := by
  simp [firstRepeated?, firstRepeated?_go_eq_none]

end CommandGrammar
