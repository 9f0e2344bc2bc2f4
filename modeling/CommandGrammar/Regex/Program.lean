import CommandGrammar.Regex.Basic

/-!
# Matching programs

A program is an expression written out as instructions that follow each other by address. An
expression of a given size takes as many instructions, from its own first address on, and is
left for an address that is given to it; so programs are put together by giving each part the
address where the next one starts. The whole program is left for the address just behind its
last instruction, and to be there is to have matched.
-/

namespace CommandGrammar

/-- One instruction of a program, with the addresses that it leads to. -/
inductive Instruction where
  /-- Go on elsewhere. -/
  | jump (next : Nat)
  /-- Take one character of a set. -/
  | one (chars : CharSet) (next : Nat)
  /-- Go on at a place where a condition holds. -/
  | place (condition : Place) (next : Nat)
  /-- Begin a group. -/
  | openGroup (next : Nat)
  /-- End the group that began last, and keep its text under a number. -/
  | closeGroup (index : Nat) (next : Nat)
  /-- Go on at either address; the first is preferred. -/
  | split (first second : Nat)
  deriving DecidableEq, Repr, Inhabited

/-- Enter a repeated part or leave it; a greedy repetition prefers to enter. -/
def Instruction.enter (greedy : Bool) (inside outside : Nat) : Instruction :=
  if greedy then split inside outside else split outside inside

namespace Regex

/-- The number of instructions that an expression takes. -/
def size : Regex → Nat
  | empty => 1
  | one _ => 1
  | place _ => 1
  | group _ body => body.size + 2
  | seq first second => first.size + second.size
  | alt first second => first.size + second.size + 1
  | times body least most _ =>
    match most, least with
    | none, 0 => if body.consumes then body.size + 1 else body.size + 2
    | none, least => body.size * least + 1
    | some most, least => body.size * least + (body.size + 1) * (most - least) + 1

/-- A number of copies of a part one after the other; each has the given size. -/
def copies (code : Nat → Nat → List Instruction) (size count start : Nat) : List Instruction :=
  (List.range count).flatMap fun i => code (start + size * i) (start + size * (i + 1))

/-- Up to a number of copies of a part, before each of which one may leave for `stop`. -/
def optionalCopies (code : Nat → Nat → List Instruction) (size count : Nat) (greedy : Bool)
    (start stop : Nat) : List Instruction :=
  let enterAnd (here next : Nat) : List Instruction :=
    .enter greedy (here + 1) stop :: code (here + 1) next
  copies enterAnd (size + 1) count start

/-- The instructions of an expression from the address `start` on, left for `next`. A part
that may be repeated any number of times is entered and left by one instruction before it if
it has characters in all its texts, else by two, before it and after it: so it can match the
empty text once. -/
def code : Regex → (start next : Nat) → List Instruction
  | empty, _, next => [.jump next]
  | one chars, _, next => [.one chars next]
  | place condition, _, next => [.place condition next]
  | group index body, start, next =>
    let stop := start + 1 + body.size
    .openGroup (start + 1) :: (body.code (start + 1) stop ++ [.closeGroup index next])
  | seq first second, start, next =>
    let middle := start + first.size
    first.code start middle ++ second.code middle next
  | alt first second, start, next =>
    let other := start + 1 + first.size
    .split (start + 1) other :: (first.code (start + 1) next ++ second.code other next)
  | times body least most greedy, start, next =>
    let part := fun start next => body.code start next
    match most, least with
    | none, 0 =>
      let enter := Instruction.enter greedy (start + 1) next
      if body.consumes then enter :: part (start + 1) start
      else enter :: (part (start + 1) (start + 1 + body.size) ++ [enter])
    | none, least + 1 =>
      copies part body.size (least + 1) start ++
        [.enter greedy (start + body.size * least) next]
    | some most, least =>
      let middle := start + body.size * least
      let stop := middle + (body.size + 1) * (most - least)
      copies part body.size least start ++
        (optionalCopies part body.size (most - least) greedy middle stop ++ [.jump next])

/-- Copies take as many instructions as the part takes, times their number. -/
theorem length_copies {code : Nat → Nat → List Instruction} {size : Nat}
    (h : ∀ start next, (code start next).length = size) (count start : Nat) :
    (copies code size count start).length = size * count := by
  induction count with
  | zero => simp [copies]
  | succ count ih =>
    have hlast : copies code size (count + 1) start = copies code size count start ++
        code (start + size * count) (start + size * (count + 1)) := by
      simp [copies, List.range_succ]
    rw [hlast, List.length_append, ih, h, Nat.mul_succ]

/-- Every optional copy takes one instruction more than the part. -/
theorem length_optionalCopies {code : Nat → Nat → List Instruction} {size : Nat}
    (h : ∀ start next, (code start next).length = size) (count : Nat) (greedy : Bool)
    (start stop : Nat) :
    (optionalCopies code size count greedy start stop).length = (size + 1) * count := by
  unfold optionalCopies
  refine length_copies (fun here next => ?_) count start
  rw [List.length_cons, h]

/-- An expression takes as many instructions as its size says, wherever it starts. -/
theorem length_code (r : Regex) (start next : Nat) : (r.code start next).length = r.size := by
  induction r generalizing start next with
  | empty => rfl
  | one chars => rfl
  | place condition => rfl
  | group index body ih => simp [code, size, ih]
  | seq first second ihFirst ihSecond => simp [code, size, ihFirst, ihSecond]
  | alt first second ihFirst ihSecond => simp [code, size, ihFirst, ihSecond]
  | times body least most greedy ih =>
    cases most with
    | none =>
      cases least with
      | zero =>
        simp only [code, size]
        split
        · rw [List.length_cons, ih]
        · simp [ih]
      | succ least => simp [code, size, length_copies ih]
    | some most =>
      simp only [code, size, List.length_append, length_copies ih, length_optionalCopies ih,
        List.length_singleton]
      omega

end Regex

/-- An expression written out as instructions. -/
structure Program where
  /-- The instructions by address; the first one is the start. -/
  instructions : Array Instruction
  deriving DecidableEq, Repr

namespace Program

/-- The program of an expression. -/
def ofRegex (r : Regex) : Program := ⟨(r.code 0 r.size).toArray⟩

/-- The number of instructions. -/
def size (p : Program) : Nat := p.instructions.size

/-- A program is left for the address just behind its last instruction. -/
theorem size_ofRegex (r : Regex) : (ofRegex r).size = r.size := by
  simp [size, ofRegex, Regex.length_code]

end Program

end CommandGrammar
