import CommandGrammar.Text.Split
import CommandGrammar.Value

/-!
# Outcomes of matching

What an input gives when it is matched against a command: the value of the header, the values
of slots by owner, and what is left of the input. A fault says why it does not match; what was
captured before the fault is kept.
-/

namespace CommandGrammar

/-- Why an input does not match a command. -/
inductive MatchFault where
  /-- There is no token. -/
  | emptyInput
  /-- There is a unit of an excluded kind. -/
  | excludedUnit (kind : String)
  /-- The leading tokens are not those of the command. -/
  | headerMismatch (found : String)
  /-- A token is not what a slot takes. -/
  | unmatched (slot found : String)
  /-- There is no token for a slot. -/
  | missing (slot : String)
  deriving DecidableEq, Repr

/-- The message for a fault. -/
def MatchFault.message : MatchFault → String
  | emptyInput => "empty input"
  | excludedUnit kind => s!"unrecognised unit of kind `{kind}`"
  | headerMismatch found => s!"header mismatch at `{found}`"
  | unmatched slot found => s!"parameter `{found}` does not match argument `{slot}`"
  | missing slot => s!"missing argument `{slot}`"

/-- A fault with what was left of the input when it arose. -/
structure MatchError where
  /-- The fault. -/
  fault : MatchFault
  /-- The tokens left. -/
  remainder : List Token

/-- The values of slots by name. -/
abbrev SlotValues := NameMap Value

/-- What a nested command captured. -/
structure SubcommandValues where
  /-- The values of its own slots. -/
  args : SlotValues
  /-- The values of its options. -/
  options : NameMap SlotValues
  deriving Inhabited

/-- What matching an input gives. -/
structure MatchResult where
  /-- Whether the input matches. -/
  matched : Bool
  /-- The value of the header, false if it did not match. -/
  header : Value
  /-- The values of the slots after the header. -/
  mainArgs : SlotValues
  /-- The values of options. -/
  options : NameMap SlotValues
  /-- The values of nested commands. -/
  subcommands : NameMap SubcommandValues
  /-- The tokens left. -/
  remainder : List Token
  /-- The error of an input that does not match. -/
  error? : Option MatchError

namespace MatchResult

/-- Why the input does not match, if it does not. -/
def fault (r : MatchResult) : Option MatchFault := r.error?.map MatchError.fault

/-- A fault is that of an error. -/
theorem fault_eq_some_iff {r : MatchResult} {fault : MatchFault} :
    r.fault = some fault ↔ ∃ error, r.error? = some error ∧ error.fault = fault :=
  Option.map_eq_some_iff

/-- The result for what was captured when matching came to an end, with a fault or without. -/
def conclude (header : Value) (mainArgs : SlotValues) (options : NameMap SlotValues)
    (subcommands : NameMap SubcommandValues) (remainder : List Token)
    (fault : Option MatchFault) : MatchResult where
  matched := match fault with
    | none => true
    | some _ => false
  header := header
  mainArgs := mainArgs
  options := options
  subcommands := subcommands
  remainder := remainder
  error? := match fault with
    | none => none
    | some fault => some ⟨fault, remainder⟩

section Conclusion

variable (header : Value) (mainArgs : SlotValues) (options : NameMap SlotValues)
  (subcommands : NameMap SubcommandValues) (remainder : List Token) (fault : Option MatchFault)

@[simp]
theorem conclude_header :
    (conclude header mainArgs options subcommands remainder fault).header = header := rfl

@[simp]
theorem conclude_mainArgs :
    (conclude header mainArgs options subcommands remainder fault).mainArgs = mainArgs := rfl

@[simp]
theorem conclude_options :
    (conclude header mainArgs options subcommands remainder fault).options = options := rfl

@[simp]
theorem conclude_subcommands :
    (conclude header mainArgs options subcommands remainder fault).subcommands = subcommands := rfl

@[simp]
theorem conclude_remainder :
    (conclude header mainArgs options subcommands remainder fault).remainder = remainder := rfl

@[simp]
theorem conclude_fault :
    (conclude header mainArgs options subcommands remainder fault).fault = fault := by
  cases fault <;> rfl

end Conclusion

/-- Whether the parts of a result agree: there is an error unless the input matches, and what the
error says is left is left. -/
structure Agrees (r : MatchResult) : Prop where
  /-- The input matches exactly when there is no error. -/
  matched : r.matched = true ↔ r.error? = none
  /-- The error has the tokens left. -/
  remainder : ∀ error, r.error? = some error → error.remainder = r.remainder

/-- What is concluded agrees. -/
theorem conclude_agrees (header : Value) (mainArgs : SlotValues) (options : NameMap SlotValues)
    (subcommands : NameMap SubcommandValues) (remainder : List Token)
    (fault : Option MatchFault) :
    (conclude header mainArgs options subcommands remainder fault).Agrees := by
  cases fault with
  | none => exact ⟨by simp [conclude], fun error herror => nomatch herror⟩
  | some fault =>
    refine ⟨by simp [conclude], fun error herror => ?_⟩
    cases herror
    rfl

namespace Agrees

variable {r : MatchResult}

/-- The input matches exactly when there is no fault. -/
theorem matched_iff (h : r.Agrees) : r.matched = true ↔ r.fault = none := by
  rw [h.matched, fault, Option.map_eq_none_iff]

/-- The error has the fault and the tokens left. -/
theorem error_eq (h : r.Agrees) : r.error? = r.fault.map fun fault => ⟨fault, r.remainder⟩ := by
  rw [fault]
  cases herror : r.error? with
  | none => rfl
  | some error => rw [Option.map_some, Option.map_some, ← h.remainder error herror]

end Agrees

/-- The value an option has under a slot name, or its only value without one. -/
def optionValue? (values : SlotValues) : Option String → Option Value
  | some slot => values.get? slot
  | none => match values.entries with
    | [(_, value)] => some value
    | _ => none

/-- The parts of a path around its first dot. -/
def cutPath (path : String) : String × Option String :=
  match splitAround? path '.' with
  | some (head, rest) => (head, some rest)
  | none => (path, none)

/-- The value that a path below a nested command leads to: one of its slots, or a slot of one
of its options. -/
def subcommandValue? (values : SubcommandValues) (path : String) : Option Value :=
  match values.args.get? path with
  | some value => some value
  | none =>
    let (name, slot) := cutPath path
    (values.options.get? name).bind fun option => optionValue? option slot

/-- The value that a path leads to: a slot after the header, a slot of an option, or what is
below a nested command; in this order. -/
def get? (r : MatchResult) (path : String) : Option Value :=
  let (head, rest) := cutPath path
  match if rest.isNone then r.mainArgs.get? head else none with
  | some value => some value
  | none =>
    match r.options.get? head with
    | some option => optionValue? option rest
    | none =>
      (r.subcommands.get? head).bind fun values => rest.bind (subcommandValue? values)

end MatchResult

end CommandGrammar
