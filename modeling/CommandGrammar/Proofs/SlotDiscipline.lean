import CommandGrammar.Proofs.CapturedTokens
import CommandGrammar.Proofs.DeliveredTokens
import CommandGrammar.Proofs.RoundTrips

/-!
# What filling one slot may do

A slot reads some tokens, keeps those in front and steps back over the others. It may only write the
value under its own name, and a slot that fails writes nothing and keeps nothing.

How many tokens are read and stepped back over differs from strategy to strategy. In every case the
cursor ends where reading on would have led it over the tokens that are kept, and nothing more:
`exists_delivers` goes through the strategies, and leaves a walk in which no token stays read. With
`Walk.samePlace` the discipline follows for all of them at once: `fillInto_discipline`.
-/

namespace CommandGrammar

open Cursor (Shows Attained)

/-- Filling a slot changes no value but its own. -/
theorem get?_fillInto_of_ne {slot : Slot} {name : String} (hname : name ≠ slot.name)
    (ctx : SlotContext) (c : Cursor) (values : SlotValues) :
    (slot.fillInto ctx c values).values.get? name = values.get? name := by
  unfold Slot.fillInto
  cases slot.fill ctx c with
  | mk last outcome =>
    cases outcome with
    | filled value => exact (NameMap.get?_insert ..).trans (if_neg (Ne.symm hname))
    | empty => rfl
    | failed fault => rfl

/-! ### The tokens that are kept -/

/-- All tokens that are left are delivered. -/
theorem delivers_fetchAll (separator : String) (c : Cursor) :
    c.Delivers separator (c.fetchAll separator).1 (c.fetchAll separator).2 := by
  fun_induction Cursor.fetchAll separator c with
  | case1 c h => exact .nil c
  | case2 c token next h tokens last hlast ih =>
    rw [hlast] at ih
    exact .cons h ih

section Slots

variable (slot : Slot) (ctx : SlotContext) (c : Cursor)

/-- A slot for one token keeps it, or steps back over it. -/
theorem delivers_fillOne :
    ∃ kept next, c.Delivers ctx.separator kept next ∧
      Walk [ctx.separator] next [] (slot.fillOne ctx c).1 := by
  rw [Slot.fillOne_cases]
  split
  · exact ⟨[], c, .nil c, .here⟩
  · rename_i token next hfetch
    have hback : Walk [ctx.separator] c [] (next.pushBack token) :=
      (Walk.here.read List.mem_cons_self hfetch).back
    split
    · exact ⟨[], c, .nil c, hback⟩
    · split
      · exact ⟨[token], next, .cons hfetch (.nil next), .here⟩
      · exact ⟨[], c, .nil c, hback⟩

/-- The first tokens of a run are delivered, and from behind them those after them are read. -/
theorem delivers_gather {α : Type} (collect? : String → Option α) (budget count : Nat) :
    let run := gather ctx collect? budget c
    ∃ next, c.Delivers ctx.separator ((run.items.take count).map Prod.fst) next ∧
      Walk [ctx.separator] next ((run.items.drop count).map Prod.fst).reverse run.last := by
  induction budget generalizing c count with
  | zero =>
    have hwalk := walk_gather ctx c (List.mem_singleton.mpr rfl) collect? 0
    have hitems : (gather ctx collect? 0 c).items = [] := by
      unfold gather
      split <;> rfl
    simp only [hitems, List.take_nil, List.drop_nil, List.map_nil, List.reverse_nil] at hwalk ⊢
    exact ⟨c, .nil c, hwalk⟩
  | succ budget ih =>
    cases count with
    | zero =>
      exact ⟨c, .nil c, walk_gather ctx c (List.mem_singleton.mpr rfl) collect? (budget + 1)⟩
    | succ count =>
      unfold gather
      split
      · exact ⟨c, .nil c, .here⟩
      · rename_i token next hfetch
        dsimp only
        split
        · exact ⟨c, .nil c, (Walk.here.read List.mem_cons_self hfetch).back⟩
        · obtain ⟨last, hdelivers, hwalk⟩ := ih next count
          exact ⟨last, .cons hfetch hdelivers, hwalk⟩

/-- A run keeps its first tokens, and steps back over those that it gives to later slots. -/
theorem delivers_gatherRun {α : Type} (collect? : String → Option α) :
    ∃ kept next, c.Delivers ctx.separator kept next ∧
      Walk [ctx.separator] next [] (gatherRun ctx collect? c).1 := by
  unfold gatherRun
  split
  · exact ⟨[], c, .nil c, .here⟩
  · dsimp only
    unfold Gathered.settle
    dsimp only
    generalize List.length _ - _ = count
    obtain ⟨next, hdelivers, hwalk⟩ := delivers_gather ctx c collect? _ count
    rw [← List.append_nil (List.reverse _)] at hwalk
    exact ⟨_, next, hdelivers, hwalk.pushBackAll⟩

/-- Every slot is led on over the tokens that it keeps, and from there on and back. -/
theorem exists_delivers :
    ∃ kept next, c.Delivers ctx.separator kept next ∧
      Walk [ctx.separator] next [] (slot.fill ctx c).1 := by
  unfold Slot.fill
  split
  · rename_i run _
    unfold Slot.fillRun
    split
    · exact delivers_gatherRun ctx c run.inner.capture?
    · exact delivers_gatherRun ctx c run.entry?
  · exact ⟨_, _, delivers_fetchAll ctx.separator c, .here⟩
  · exact delivers_fillOne slot ctx c

/-- The tokens that a slot takes are delivered up to the place where it leaves the cursor. -/
theorem exists_delivers_takes {own : String} (hc : c.Valid own) :
    ∃ kept next, c.Delivers ctx.separator kept next ∧ next.SamePlace (slot.fill ctx c).1 ∧
      slot.Takes ctx c kept := by
  obtain ⟨kept, next, hdelivers, hwalk⟩ := exists_delivers slot ctx c
  obtain ⟨taken, htakes⟩ := exists_takes slot ctx c
  have hplace := hwalk.samePlace (hdelivers.walk.valid hc)
  -- Both lists were consumed on the way to the same cursor.
  obtain ⟨past, left, hshows⟩ := hc
  obtain ⟨rest, hkept⟩ := (hdelivers.walk.trans hwalk).shows hshows
  obtain ⟨rest', htaken⟩ := htakes.walk.shows hshows
  have hconsumed := (consumed_of_shows hkept).symm.trans (consumed_of_shows htaken)
  have hsame : kept = taken := by simpa using hconsumed
  exact ⟨kept, next, hdelivers, hplace, hsame ▸ htakes⟩

end Slots

/-! ### The discipline -/

/-- How a slot that takes no token leaves the values: its own is the one that it falls back to or
that of a run without tokens, or there is none and it may stay without. -/
inductive Slot.Unfilled (slot : Slot) (keywords : List String) (values : SlotValues) :
    SlotValues → Prop
  /-- The slot falls back to its default. -/
  | fallback {value : Value} (default : slot.FallsBackTo value) :
      Unfilled slot keywords values (values.insert slot.name value)
  /-- The run has no tokens. -/
  | emptyRun {value : Value} (gives : slot.strategy.Gives keywords [] value) :
      Unfilled slot keywords values (values.insert slot.name value)
  /-- The slot is optional, and has no default. -/
  | absent (optional : slot.optional = true) (default : slot.default = none) :
      Unfilled slot keywords values values

/-- Where no token can be read, all were consumed. -/
theorem isExhausted_of_fetch {own separator : String} {c : Cursor} (hc : c.Valid own)
    (h : c.fetch separator = none) : c.isExhausted = true := by
  obtain ⟨past, left, hshows⟩ := hc
  cases left with
  | nil => exact hshows.isExhausted
  | cons token rest =>
    obtain ⟨next, hfetch, -⟩ := hshows.fetch separator
    cases h.symm.trans hfetch

/-- A strategy for one token gives its value to one token. -/
theorem Strategy.Gives.length_eq_one {keywords : List String} {strategy : Strategy}
    {tokens : List Token} {value : Value} (h : strategy.Gives keywords tokens value)
    (hsingle : strategy.isVariadic = false) : tokens.length = 1 := by
  cases h with
  | multi => cases hsingle
  | all => cases hsingle
  | _ => rfl

/-- What a slot may do to the cursor and to the values there were. -/
structure Slot.Disciplined (slot : Slot) (ctx : SlotContext) (c : Cursor) (values : SlotValues)
    (result : Filling) : Prop where
  /-- The cursor does not end before the place where it started. -/
  place : NotAfter c.segment c.piece result.cursor.segment result.cursor.piece
  /-- No value changes but the one of the slot. -/
  others : ∀ name, name ≠ slot.name → result.values.get? name = values.get? name
  /-- If the slot fails, the cursor ends where it started, and no value changes. -/
  failed : result.fault ≠ none → c.SamePlace result.cursor ∧ result.values = values
  /-- If it does not fail, it takes no token and the cursor ends where it started, or its value is
  that of tokens which reading on delivers, and the cursor ends behind them. They are one token
  unless the strategy takes several, and all that are left if it takes these. -/
  succeeded : result.fault = none →
    (c.SamePlace result.cursor ∧ slot.Unfilled ctx.keywords values result.values) ∨
    ∃ kept next value, kept ≠ [] ∧ c.Delivers ctx.separator kept next ∧
      next.SamePlace result.cursor ∧ slot.strategy.Gives ctx.keywords kept value ∧
      result.values = values.insert slot.name value ∧
      (slot.strategy.isVariadic = false → kept.length = 1) ∧
      (slot.strategy = .all → result.cursor.isExhausted = true)

/-- With no token delivered the place is still that of the cursor. -/
theorem samePlace_of_nothing {separator : String} {c next last : Cursor}
    (hdelivers : c.Delivers separator [] next) (hplace : next.SamePlace last) :
    c.SamePlace last := by
  cases hdelivers
  exact hplace

/-- At every cursor that is attained from an input every slot keeps to the discipline, whatever its
strategy, the separator, the keywords, the number of required slots after it and the values before
it. -/
theorem fillInto_discipline {input : Input} {own : String} {excluded : List String}
    {refuse : Bool} {start c : Cursor}
    (hstart : Cursor.tokenize input own excluded refuse = .ok start) (hc : Attained start c)
    (slot : Slot) (ctx : SlotContext) (values : SlotValues) :
    slot.Disciplined ctx c values (slot.fillInto ctx c values) := by
  obtain ⟨hsound, howned⟩ := hc.valid hstart
  have hvalid : c.Valid own := hsound.valid howned
  obtain ⟨kept, next, hdelivers, hplace, htakes⟩ := exists_delivers_takes slot ctx c hvalid
  have hreaches := (reaches_slot_fill slot ctx hsound.wellPlaced).place
  have hallows := allows_fill slot ctx c
  have hrest := htakes.rest
  have hlast : (slot.fill ctx c).1.Valid own := htakes.walk.valid hvalid
  have hgoes := htakes.outcome
  have hothers : ∀ name, name ≠ slot.name →
      (slot.fillInto ctx c values).values.get? name = values.get? name :=
    fun name hname => get?_fillInto_of_ne hname ctx c values
  unfold Slot.fillInto at hothers ⊢
  generalize slot.fill ctx c = result at hplace hreaches hallows hrest hlast hgoes hothers ⊢
  obtain ⟨last, outcome⟩ := result
  cases outcome with
  | filled value =>
    refine ⟨hreaches, hothers, fun h => absurd rfl h, fun _ => ?_⟩
    rcases hgoes with hgives | ⟨rfl, hfallback⟩
    · by_cases hnone : kept = []
      · subst hnone
        exact .inl ⟨samePlace_of_nothing hdelivers hplace, .emptyRun hgives⟩
      · exact .inr ⟨kept, next, value, hnone, hdelivers, hplace, hgives, rfl,
          hgives.length_eq_one, fun hall => isExhausted_of_fetch hlast (hrest hall)⟩
    · exact .inl ⟨samePlace_of_nothing hdelivers hplace, .fallback hfallback⟩
  | empty =>
    cases show kept = [] from hgoes
    exact ⟨hreaches, hothers, fun h => absurd rfl h, fun _ =>
      .inl ⟨samePlace_of_nothing hdelivers hplace, .absent hallows.1 hallows.2⟩⟩
  | failed fault =>
    cases show kept = [] from hgoes
    exact ⟨hreaches, hothers, fun _ => ⟨samePlace_of_nothing hdelivers hplace, rfl⟩,
      fun h => by cases h⟩

/-- Words are read with a comma up to a keyword: the last of them is left to a later slot, and the
piece that they stood in was cut into four. -/
theorem fillInto_discipline_words :
    let start : Cursor := ⟨[.text ["tell", "a,b,--end,c"] " "], 0, 0⟩
    let c : Cursor := ⟨start.segments, 0, 1⟩
    let ctx : SlotContext := ⟨",", ["--end"], 1⟩
    let result := wordsSlot.fillInto ctx c .empty
    Cursor.tokenize (.text "tell a,b,--end,c") " " [] false = .ok start ∧ Attained start c ∧
      wordsSlot.Disciplined ctx c .empty result ∧
      (result.cursor.segment, result.cursor.piece, result.cursor.remaining " ") = (0, 2, 3) := by
  intro start c ctx result
  have hstart : Cursor.tokenize (.text "tell a,b,--end,c") " " [] false = .ok start := by rfl
  have hname : start.fetch " " = some (.text "tell", c) := by rfl
  have hattained : Attained start c := .fetch .start hname
  exact ⟨hstart, hattained, fillInto_discipline hstart hattained wordsSlot ctx .empty,
    by decide +kernel⟩

end CommandGrammar
