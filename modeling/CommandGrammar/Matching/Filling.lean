import CommandGrammar.Matching.Outcome
import CommandGrammar.Matching.Progress
import CommandGrammar.Slot.SlotList

/-!
# Filling slots

A slot reads tokens from a cursor and is filled, stays empty or fails. What it does not keep
it steps back over. Keywords are never taken by a slot, except by one that takes all that is
left. A run leaves enough tokens for the required slots after it.
-/

namespace CommandGrammar

/-- What happens to a slot. -/
inductive SlotOutcome where
  /-- It has a value. -/
  | filled (value : Value)
  /-- It stays without a value. -/
  | empty
  /-- It needs a value and finds none. -/
  | failed (fault : MatchFault)

/-- What a slot depends on besides itself and the input. -/
structure SlotContext where
  /-- The separator that tokens are read with. -/
  separator : String
  /-- The texts that are no arguments. -/
  keywords : List String
  /-- How many required slots come after it. -/
  laterRequired : Nat

namespace SlotContext

/-- Whether a token is a keyword. -/
def isKeyword (ctx : SlotContext) (token : Token) : Bool :=
  token.asText?.any ctx.keywords.contains

/-- The token that a slot may take: the candidate, unless that is a keyword. -/
def data? (ctx : SlotContext) (candidate : Option Token) : Option Token :=
  candidate.filter fun token => !ctx.isKeyword token

/-- A keyword may not be taken. -/
theorem data?_of_keyword {ctx : SlotContext} {token : Token} (h : ctx.isKeyword token = true) :
    ctx.data? (some token) = none := by
  simp [data?, h]

/-- Any other candidate may be taken. -/
theorem data?_of_not_keyword {ctx : SlotContext} {token : Token}
    (h : ctx.isKeyword token = false) : ctx.data? (some token) = some token := by
  simp [data?, h]

end SlotContext

namespace Slot

/-- What happens to a slot that takes nothing: it has its default, stays empty if it may, or
fails. `refused` is the token that it did not take, unless that is a keyword. -/
def unfilled (slot : Slot) (refused : Option Token) : SlotOutcome :=
  match slot.default with
  | some value => .filled value
  | none =>
    if slot.optional then .empty
    else match refused with
      | some token => .failed (.unmatched slot.name token.display)
      | none => .failed (.missing slot.name)

/-- A slot that does not keep its candidate: the candidate is stepped back over. -/
def fallBack (slot : Slot) (ctx : SlotContext) (candidate : Option Token) (c : Cursor) :
    Cursor × SlotOutcome :=
  (candidate.elim c c.pushBack, slot.unfilled (ctx.data? candidate))

/-- Offer a candidate to a slot that takes one token, at the cursor behind it. -/
def serve (slot : Slot) (ctx : SlotContext) (candidate : Option Token) (c : Cursor) :
    Cursor × SlotOutcome :=
  match (ctx.data? candidate).bind slot.strategy.accept? with
  | some value => (c, .filled value)
  | none => slot.fallBack ctx candidate c

/-- Fill a slot that takes one token. -/
def fillOne (slot : Slot) (ctx : SlotContext) (c : Cursor) : Cursor × SlotOutcome :=
  match c.fetch ctx.separator with
  | none => slot.serve ctx none c
  | some (token, next) => slot.serve ctx (some token) next

section Serving

variable {slot : Slot} {ctx : SlotContext} {c : Cursor}

/-- Without a token that may be taken a slot falls back. -/
theorem serve_of_no_data {candidate : Option Token} (h : ctx.data? candidate = none) :
    slot.serve ctx candidate c = slot.fallBack ctx candidate c := by
  rw [serve, h, Option.bind_none]

/-- A token that the strategy accepts is kept. -/
theorem serve_of_accepted {token : Token} {value : Value} (h : ctx.isKeyword token = false)
    (haccept : slot.strategy.accept? token = some value) :
    slot.serve ctx (some token) c = (c, .filled value) := by
  rw [serve, ctx.data?_of_not_keyword h, Option.bind_some, haccept]

/-- A token that the strategy does not accept is not kept. -/
theorem serve_of_refused {token : Token} (h : ctx.isKeyword token = false)
    (haccept : slot.strategy.accept? token = none) :
    slot.serve ctx (some token) c = slot.fallBack ctx (some token) c := by
  rw [serve, ctx.data?_of_not_keyword h, Option.bind_some, haccept]

/-- A slot for one token keeps it, or steps back over it. -/
theorem fillOne_cases (slot : Slot) (ctx : SlotContext) (c : Cursor) :
    slot.fillOne ctx c =
      match c.fetch ctx.separator with
      | none => (c, slot.unfilled none)
      | some (token, next) =>
        if ctx.isKeyword token then (next.pushBack token, slot.unfilled none)
        else match slot.strategy.accept? token with
          | some value => (next, .filled value)
          | none => (next.pushBack token, slot.unfilled (some token)) := by
  unfold fillOne
  cases c.fetch ctx.separator with
  | none => rfl
  | some read =>
    obtain ⟨token, next⟩ := read
    dsimp only
    cases hkeyword : ctx.isKeyword token with
    | true =>
      have hnone := ctx.data?_of_keyword hkeyword
      rw [serve_of_no_data hnone, fallBack, hnone]
      rfl
    | false =>
      cases haccept : slot.strategy.accept? token with
      | none =>
        rw [serve_of_refused hkeyword haccept, fallBack, ctx.data?_of_not_keyword hkeyword]
        rfl
      | some value =>
        rw [serve_of_accepted hkeyword haccept]
        rfl

end Serving

/-- The value of a run without tokens. -/
def emptyRun (slot : Slot) : RunMode → Value
  | .list => .list slot.default.toList
  | .map => slot.default.getD (.map [])

/-- The outcome of a slot that takes a run: the value of the items, or of a run without tokens. -/
def outcomeOfRun {α : Type} (slot : Slot) (mode : RunMode) (value : List α → Value)
    (items : List α) : SlotOutcome :=
  .filled (if items.isEmpty then slot.emptyRun mode else value items)

/-- Fill a slot that takes all that is left. -/
def fillRest (slot : Slot) (ctx : SlotContext) (c : Cursor) : Cursor × SlotOutcome :=
  let (tokens, last) := c.fetchAll ctx.separator
  (last, slot.outcomeOfRun .list (fun tokens => .list (tokens.map .ofToken)) tokens)

end Slot

/-- The tokens of a run. -/
structure Gathered (α : Type) where
  /-- What was gathered, each with its token. -/
  items : List (Token × α)
  /-- The cursor after the run. -/
  last : Cursor
  /-- Whether a token that does not belong to the run ended it. -/
  stopped : Bool

/-- Gather what tokens give, up to a number of them. The token that ends the run is stepped
back over. -/
def gather {α : Type} (ctx : SlotContext) (collect? : String → Option α) :
    Nat → Cursor → Gathered α
  | budget, c =>
    match c.fetch ctx.separator with
    | none => ⟨[], c, false⟩
    | some (token, next) =>
      match budget with
      | 0 => ⟨[], next.pushBack token, false⟩
      | budget + 1 =>
        match if ctx.isKeyword token then none else token.asText?.bind collect? with
        | none => ⟨[], next.pushBack token, true⟩
        | some item =>
          let others := gather ctx collect? budget next
          { others with items := (token, item) :: others.items }

/-- What a run keeps and where it ends. A run that was stopped gives its last tokens to the
required slots after it. -/
def Gathered.settle {α : Type} (g : Gathered α) (laterRequired : Nat) : Cursor × List α :=
  let given := if g.stopped then min g.items.length laterRequired else 0
  let kept := g.items.length - given
  (g.last.pushBackAll ((g.items.drop kept).map Prod.fst), (g.items.take kept).map Prod.snd)

/-- The run at a cursor, which leaves as many tokens as there are required slots after it. -/
def gatherRun {α : Type} (ctx : SlotContext) (collect? : String → Option α) (c : Cursor) :
    Cursor × List α :=
  match c.fetch ctx.separator with
  | none => (c, [])
  | some (_, next) =>
    let budget := next.remaining ctx.separator + 1 - ctx.laterRequired
    (gather ctx collect? budget c).settle ctx.laterRequired

/-- The key and the value of an entry: the key is what is in front of the first equals sign. -/
def Run.entry? (run : Run) (text : String) : Option (String × Value) :=
  match splitAround? text '=' with
  | none => none
  | some (key, value) => if key = "" then none else (run.inner.capture? value).map (key, ·)

namespace Slot

/-- Fill a slot that takes a run. -/
def fillRun (slot : Slot) (ctx : SlotContext) (run : Run) (c : Cursor) : Cursor × SlotOutcome :=
  match run.mode with
  | .list =>
    let (last, values) := gatherRun ctx run.inner.capture? c
    (last, slot.outcomeOfRun .list .list values)
  | .map =>
    let (last, entries) := gatherRun ctx run.entry? c
    (last, slot.outcomeOfRun .map (fun entries => .map (NameMap.ofList entries).entries) entries)

/-- Fill a slot. -/
def fill (slot : Slot) (ctx : SlotContext) (c : Cursor) : Cursor × SlotOutcome :=
  match slot.strategy with
  | .multi run => slot.fillRun ctx run c
  | .all => slot.fillRest ctx c
  | _ => slot.fillOne ctx c

end Slot

/-- A slot whose strategy takes one token is filled with what the strategy gives to the token. -/
theorem Slot.fill_single {slot : Slot} (h : slot.strategy.isVariadic = false) (ctx : SlotContext)
    (c : Cursor) : slot.fill ctx c = slot.fillOne ctx c := by
  unfold Slot.fill
  split
  · rename_i hmulti
    rw [hmulti] at h
    cases h
  · rename_i hall
    rw [hall] at h
    cases h
  · rfl

/-- What filling slots gives. -/
structure Filling where
  /-- The cursor after the tokens that were kept. -/
  cursor : Cursor
  /-- The values of the slots. -/
  values : SlotValues
  /-- Why a slot failed, if one did. -/
  fault : Option MatchFault

namespace Slot

/-- Write what happens to a slot to the values there were. -/
def record (slot : Slot) (values : SlotValues) : Cursor × SlotOutcome → Filling
  | (last, .filled value) => ⟨last, values.insert slot.name value, none⟩
  | (last, .empty) => ⟨last, values, none⟩
  | (last, .failed fault) => ⟨last, values, some fault⟩

/-- Fill a slot and write what happens to it. -/
def fillInto (slot : Slot) (ctx : SlotContext) (c : Cursor) (values : SlotValues) : Filling :=
  slot.record values (slot.fill ctx c)

/-- A slot that has a value writes it under its name. -/
theorem fillInto_of_filled {slot : Slot} {ctx : SlotContext} {c : Cursor} {value : Value}
    (h : (slot.fill ctx c).2 = .filled value) (values : SlotValues) :
    slot.fillInto ctx c values =
      ⟨(slot.fill ctx c).1, values.insert slot.name value, none⟩ := by
  rw [fillInto, ← Prod.eta (slot.fill ctx c), h]
  rfl

end Slot

namespace SlotList

/-- Fill slots in order, up to the first that fails. -/
def fillFrom (separator : String) (keywords : List String) :
    List Slot → Cursor → SlotValues → Filling
  | [], c, values => ⟨c, values, none⟩
  | slot :: rest, c, values =>
    let first := slot.fillInto ⟨separator, keywords, rest.countP Slot.isRequired⟩ c values
    match first.fault with
    | none => fillFrom separator keywords rest first.cursor first.values
    | some _ => first

/-- The slots after the first one are filled unless it fails. -/
theorem fillFrom_cons (separator : String) (keywords : List String) (slot : Slot)
    (rest : List Slot) (c : Cursor) (values : SlotValues) :
    fillFrom separator keywords (slot :: rest) c values =
      match slot.fill ⟨separator, keywords, rest.countP Slot.isRequired⟩ c with
      | (c, .filled value) =>
        fillFrom separator keywords rest c (values.insert slot.name value)
      | (c, .empty) => fillFrom separator keywords rest c values
      | (c, .failed fault) => ⟨c, values, some fault⟩ := by
  rw [fillFrom, Slot.fillInto]
  cases slot.fill _ c with
  | mk last outcome => cases outcome <;> rfl

/-- The defaults of slots that have one. -/
def defaults (l : SlotList) : SlotValues :=
  .ofList (l.slots.filterMap fun slot => slot.default.map (slot.name, ·))

/-- Fill the slots of a list. Without input the slots that need none have their defaults. -/
def fill (l : SlotList) (separator : String) (keywords : List String) (c : Cursor) : Filling :=
  if !l.needsInput && c.isExhausted then ⟨c, l.defaults, none⟩
  else fillFrom separator keywords l.slots c .empty

end SlotList

open Cursor (Reaches Returned)

/-- A slot for one token leaves the cursor where it was or after the token. -/
theorem reaches_fillOne (slot : Slot) (ctx : SlotContext) {c : Cursor} (hc : c.WellPlaced) :
    Reaches c (slot.fillOne ctx c).1 := by
  rw [Slot.fillOne_cases]
  split
  · exact .refl c
  · rename_i hfetch
    have hback := (Returned.refl _).pushBack hc hfetch
    split
    · exact hback.reaches
    · split
      · exact Cursor.reaches_fetch hfetch
      · exact hback.reaches

/-- Stepping back over the last tokens of a run leads to a cursor that is reached from its
start, and stepping back over all of them to the start. -/
theorem gather_pushBackAll {α : Type} (ctx : SlotContext) (collect? : String → Option α)
    (budget : Nat) {c : Cursor} (hc : c.WellPlaced) :
    let run := gather ctx collect? budget c
    Returned c (run.last.pushBackAll (run.items.map Prod.fst)) ∧
      ∀ kept, Reaches c (run.last.pushBackAll ((run.items.drop kept).map Prod.fst)) := by
  induction budget generalizing c with
  | zero =>
    unfold gather
    split
    · exact ⟨.refl c, fun kept => by simpa using .refl c⟩
    · rename_i hfetch
      have hback := (Returned.refl _).pushBack hc hfetch
      exact ⟨hback, fun kept => by simpa using hback.reaches⟩
  | succ budget ih =>
    unfold gather
    split
    · exact ⟨.refl c, fun kept => by simpa using .refl c⟩
    · rename_i token next hfetch
      dsimp only
      split
      · have hback := (Returned.refl _).pushBack hc hfetch
        exact ⟨hback, fun kept => by simpa using hback.reaches⟩
      · obtain ⟨hall, hsome⟩ := ih (Cursor.fetch_wellPlaced hfetch)
        have hback := hall.pushBack hc hfetch
        refine ⟨hback, fun kept => ?_⟩
        cases kept with
        | zero => exact hback.reaches
        | succ kept => exact (Cursor.reaches_fetch hfetch).trans (hsome kept)

/-- A run ends at a cursor that is reached from its start. -/
theorem reaches_gatherRun {α : Type} (ctx : SlotContext) (collect? : String → Option α)
    {c : Cursor} (hc : c.WellPlaced) : Reaches c (gatherRun ctx collect? c).1 := by
  unfold gatherRun
  split
  · exact .refl c
  · exact (gather_pushBackAll ctx collect? _ hc).2 _

/-- Filling a slot leads to a cursor that is reached. -/
theorem reaches_slot_fill (slot : Slot) (ctx : SlotContext) {c : Cursor} (hc : c.WellPlaced) :
    Reaches c (slot.fill ctx c).1 := by
  unfold Slot.fill
  split
  · rename_i run _
    unfold Slot.fillRun
    split
    · exact reaches_gatherRun ctx run.inner.capture? hc
    · exact reaches_gatherRun ctx run.entry? hc
  · exact Cursor.reaches_fetchAll c ctx.separator
  · exact reaches_fillOne _ _ hc

/-- Filling slots leads to a cursor that is reached. -/
theorem reaches_fillFrom (separator : String) (keywords : List String) (slots : List Slot)
    {c : Cursor} (hc : c.WellPlaced) (values : SlotValues) :
    Reaches c (SlotList.fillFrom separator keywords slots c values).cursor := by
  induction slots generalizing c values with
  | nil => exact .refl c
  | cons slot rest ih =>
    have hslot := reaches_slot_fill slot ⟨separator, keywords, rest.countP Slot.isRequired⟩ hc
    rw [SlotList.fillFrom_cons]
    split <;> rename_i hfill <;> rw [hfill] at hslot
    · exact hslot.trans (ih (hslot.placed hc) _)
    · exact hslot.trans (ih (hslot.placed hc) _)
    · exact hslot

/-- Filling a list of slots leads to a cursor that is reached. -/
theorem reaches_fill (l : SlotList) (separator : String) (keywords : List String) {c : Cursor}
    (hc : c.WellPlaced) : Reaches c (l.fill separator keywords c).cursor := by
  unfold SlotList.fill
  split
  · exact .refl c
  · exact reaches_fillFrom _ _ _ hc _

end CommandGrammar
