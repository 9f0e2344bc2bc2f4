import CommandGrammar.Proofs.ConsumedNames
import CommandGrammar.Proofs.RunReservation
import CommandGrammar.Proofs.SlotVisits

/-!
# The tokens that slots capture

A slot keeps some of the tokens that it reads, and its value is the one that its strategy gives to
them; otherwise it falls back to its default. `Strategy.Gives` says which values a strategy gives
to which tokens, and `exists_takes` that every slot keeps to it.

No strategy but the one for all that is left takes a keyword. The names of options and nested
commands are keywords, and so are the names of the options below them, but a name with an argument
glued to it is not: `captured_glued` says that this is the only way in which a slot captures a text
that calls something, and `run_captures_call` is a run where one does.
-/

namespace CommandGrammar

open Cursor (Shows)

/-! ### What strategies give -/

/-- Whether a value is a token as it is. -/
inductive Token.Unchanged : Token → Value → Prop
  /-- A text is a text. -/
  | text (s : String) : Unchanged (.text s) (.string s)
  /-- A unit is a unit. -/
  | unit (u : OpaqueUnit) : Unchanged (.unit u) (.unit u)

/-- The value of a token taken as it is. -/
theorem unchanged_ofToken (token : Token) : token.Unchanged (.ofToken token) := by
  cases token with
  | text s => exact .text s
  | unit u => exact .unit u

/-- There is one such value. -/
theorem eq_ofToken_of_unchanged {token : Token} {value : Value} (h : token.Unchanged value) :
    value = .ofToken token := by
  cases h <;> rfl

/-- Whether a token is of a kind: texts have one, and units have theirs. -/
inductive Token.OfKind : Token → String → Prop
  /-- The kind of texts. -/
  | text (s : String) : OfKind (.text s) "text"
  /-- The kind of a unit. -/
  | unit (u : OpaqueUnit) : OfKind (.unit u) u.kind

/-- Kinds are told apart by their names. -/
theorem isKind_iff {token : Token} {kind : String} :
    token.isKind kind = true ↔ token.OfKind kind := by
  constructor
  · intro h
    cases token with
    | text s =>
      obtain rfl : kind = "text" := beq_iff_eq.mp h
      exact .text s
    | unit u =>
      obtain rfl : u.kind = kind := beq_iff_eq.mp h
      exact .unit u
  · rintro (⟨s⟩ | ⟨u⟩)
    · exact beq_self_eq_true "text"
    · exact beq_self_eq_true u.kind

/-- The value of the first alternative that holds of a token. -/
inductive Alternatives.FirstGives (a : Alternatives) : Token → Value → Prop
  /-- A text is one of those that hold by equality. -/
  | equal {text : String} (listed : text ∈ a.equals) : FirstGives a (.text text) (.string text)
  /-- A pattern captures a text, and no pattern before it does. -/
  | pattern {text : String} {value : Value} {before after : List Pattern} {p : Pattern}
      (unequal : text ∉ a.equals) (patterns : a.patterns = before ++ p :: after)
      (missed : ∀ q ∈ before, q.capture? text = none) (captured : p.capture? text = some value) :
      FirstGives a (.text text) value
  /-- A token is of one of the kinds, and nothing holds of its text. -/
  | kind {token : Token} {kind : String} {value : Value}
      (unequal : ∀ text, token = .text text → text ∉ a.equals)
      (missed : ∀ text, token = .text text → ∀ p ∈ a.patterns, p.capture? text = none)
      (listed : kind ∈ a.kinds) (isKind : token.OfKind kind) (unchanged : token.Unchanged value) :
      FirstGives a token value

/-- The text of a token is one that holds by equality or is captured by a pattern. -/
theorem hitText?_eq_some_iff {a : Alternatives} {text : String} {value : Value} :
    a.hitText? text = some value ↔ (text ∈ a.equals ∧ value = .string text) ∨
      (text ∉ a.equals ∧ ∃ before p after, a.patterns = before ++ p :: after ∧
        p.capture? text = some value ∧ ∀ q ∈ before, q.capture? text = none) := by
  unfold Alternatives.hitText?
  by_cases hequal : text ∈ a.equals
  · simp [hequal, eq_comm]
  · simp [hequal, List.findSome?_eq_some_iff]

/-- Nothing holds of a text that equals none of the texts and is captured by no pattern. -/
theorem hitText?_eq_none_iff {a : Alternatives} {text : String} :
    a.hitText? text = none ↔
      text ∉ a.equals ∧ ∀ p ∈ a.patterns, p.capture? text = none := by
  unfold Alternatives.hitText?
  by_cases hequal : text ∈ a.equals
  · simp [hequal]
  · simp [hequal]

/-- The alternatives are tried in order. -/
theorem firstGives_of_hit {a : Alternatives} {token : Token} {value : Value}
    (h : a.hit? token = some value) : a.FirstGives token value := by
  unfold Alternatives.hit? at h
  split at h
  · rename_i found hfound
    cases h
    obtain ⟨text, htext, hhit⟩ := Option.bind_eq_some_iff.mp hfound
    cases token with
    | unit u => cases htext
    | text whole =>
      cases htext
      rcases hitText?_eq_some_iff.mp hhit with ⟨hlisted, rfl⟩ |
          ⟨hunequal, before, p, after, hpatterns, hcaptured, hmissed⟩
      · exact .equal hlisted
      · exact .pattern hunequal hpatterns hmissed hcaptured
  · rename_i hnone
    split at h
    · rename_i hkind
      cases h
      obtain ⟨kind, hlisted, hisKind⟩ := List.any_eq_true.mp hkind
      have htext : ∀ text, token = .text text → a.hitText? text = none := by
        rintro text rfl
        simpa [Token.asText?] using hnone
      exact .kind (fun text h => (hitText?_eq_none_iff.mp (htext text h)).1)
        (fun text h => (hitText?_eq_none_iff.mp (htext text h)).2) hlisted
        (isKind_iff.mp hisKind) (unchanged_ofToken token)
    · cases h

/-- An alternative that holds is found. -/
theorem hit_of_firstGives {a : Alternatives} {token : Token} {value : Value}
    (h : a.FirstGives token value) : a.hit? token = some value := by
  cases h with
  | @equal text hlisted =>
    have hhit : a.hitText? text = some (.string text) :=
      hitText?_eq_some_iff.mpr (.inl ⟨hlisted, rfl⟩)
    simp [Alternatives.hit?, Token.asText?, hhit]
  | @pattern text _ before after p hunequal hpatterns hmissed hcaptured =>
    have hhit : a.hitText? text = some value :=
      hitText?_eq_some_iff.mpr (.inr ⟨hunequal, before, p, after, hpatterns, hcaptured, hmissed⟩)
    simp [Alternatives.hit?, Token.asText?, hhit]
  | @kind _ kind _ hunequal hmissed hlisted hisKind hunchanged =>
    have hkind : a.kinds.any token.isKind = true :=
      List.any_eq_true.mpr ⟨kind, hlisted, isKind_iff.mpr hisKind⟩
    have hnone : token.asText?.bind a.hitText? = none := by
      cases token with
      | unit u => rfl
      | text text => exact hitText?_eq_none_iff.mpr ⟨hunequal text rfl, hmissed text rfl⟩
    simp [Alternatives.hit?, hnone, hkind, eq_ofToken_of_unchanged hunchanged]

/-- Whether a token may be an argument: it is a unit, or a text that is no keyword. -/
def Token.IsData (keywords : List String) (token : Token) : Prop :=
  ∀ text, token = .text text → text ∉ keywords

/-- A token may be an argument if it is not taken for a keyword. -/
theorem isData_iff {ctx : SlotContext} {token : Token} :
    token.IsData ctx.keywords ↔ ¬ ctx.isKeyword token = true := by
  unfold SlotContext.isKeyword Token.IsData
  cases token with
  | text text => simp [Token.asText?]
  | unit u => simp [Token.asText?]

/-- Which values a strategy gives to the tokens that it takes. -/
inductive Strategy.Gives (keywords : List String) : Strategy → List Token → Value → Prop
  /-- A pattern gives what it captures of a text. -/
  | pattern {p : Pattern} {text : String} {value : Value} (data : text ∉ keywords)
      (captured : p.capture? text = some value) : Gives keywords (.pattern p) [.text text] value
  /-- What is not to match takes a unit, or a text that it does not match, as it is. -/
  | negated {p : Pattern} {token : Token} {value : Value} (data : token.IsData keywords)
      (unmatched : ∀ text, token = .text text → p.find? text = none)
      (unchanged : token.Unchanged value) : Gives keywords (.negated p) [token] value
  /-- Alternatives that are refused let a token pass as it is when none of them holds. -/
  | refused {a : Alternatives} {token : Token} {value : Value} (data : token.IsData keywords)
      (refuses : a.negated = false) (none : ∀ found, ¬ a.FirstGives token found)
      (unchanged : token.Unchanged value) : Gives keywords (.union a) [token] value
  /-- Alternatives that are taken give the value of the first of them that holds. -/
  | taken {a : Alternatives} {token : Token} {value : Value} (data : token.IsData keywords)
      (takes : a.negated = true) (first : a.FirstGives token value) :
      Gives keywords (.union a) [token] value
  /-- Any token is given as it is. -/
  | any {token : Token} {value : Value} (data : token.IsData keywords)
      (unchanged : token.Unchanged value) : Gives keywords .any [token] value
  /-- A run gives the list of what it captures of texts, or the map of the entries in them. -/
  | multi {run : Run} {tokens : List Token} {value : Value}
      (data : ∀ token ∈ tokens, ∃ text, token = .text text ∧ text ∉ keywords)
      (records : run.Records tokens value) : Gives keywords (.multi run) tokens value
  /-- All tokens that are left are given as they are. -/
  | all {tokens : List Token} {values : List Value}
      (unchanged : List.Forall₂ Token.Unchanged tokens values) :
      Gives keywords .all tokens (.list values)

/-- No text that a strategy takes is a keyword, unless it takes all that is left. -/
theorem Strategy.Gives.data {keywords : List String} {strategy : Strategy} {tokens : List Token}
    {value : Value} (h : strategy.Gives keywords tokens value) (hall : strategy ≠ .all)
    {text : String} (htext : .text text ∈ tokens) : text ∉ keywords := by
  cases h with
  | pattern data captured =>
    cases List.mem_singleton.mp htext
    exact data
  | negated data unmatched unchanged => exact data text (List.mem_singleton.mp htext).symm
  | refused data refuses none unchanged => exact data text (List.mem_singleton.mp htext).symm
  | taken data takes first => exact data text (List.mem_singleton.mp htext).symm
  | any data unchanged => exact data text (List.mem_singleton.mp htext).symm
  | multi data records =>
    obtain ⟨found, heq, hfound⟩ := data _ htext
    cases heq
    exact hfound
  | all unchanged => exact absurd rfl hall

/-- A value that a strategy for one token gives to a token that may be an argument. -/
theorem gives_of_accept {keywords : List String} {strategy : Strategy} {token : Token}
    {value : Value} (hdata : token.IsData keywords) (h : strategy.accept? token = some value) :
    strategy.Gives keywords [token] value := by
  cases strategy with
  | pattern p =>
    obtain ⟨text, htext, hcaptured⟩ := Option.bind_eq_some_iff.mp h
    cases token with
    | unit u => cases htext
    | text whole =>
      cases htext
      exact .pattern (hdata text rfl) hcaptured
  | negated p =>
    simp only [Strategy.accept?] at h
    split at h
    · cases h
    · rename_i hunmatched
      cases h
      refine .negated hdata ?_ (unchanged_ofToken token)
      rintro text rfl
      simpa [Token.asText?] using hunmatched
  | union a =>
    simp only [Strategy.accept?, Alternatives.accept?] at h
    split at h
    · rename_i found hhit htakes
      cases h
      exact .taken hdata htakes (firstGives_of_hit hhit)
    · rename_i hhit hrefuses
      cases h
      refine .refused hdata hrefuses (fun found hfirst => ?_) (unchanged_ofToken token)
      cases hhit.symm.trans (hit_of_firstGives hfirst)
    · cases h
  | any =>
    cases h
    exact .any hdata (unchanged_ofToken token)
  | multi run => cases h
  | all => cases h

/-! ### What slots take -/

/-- Whether a slot has a value without taking a token: its default, or the list of it for a run of
values and for all that is left. -/
inductive Slot.FallsBackTo (slot : Slot) : Value → Prop
  /-- The default itself. -/
  | default {value : Value} (given : slot.default = some value) : FallsBackTo slot value
  /-- The list of the default. -/
  | listed {value : Value} (given : slot.default = some value)
      (lists : slot.strategy = .all ∨ ∃ run, slot.strategy = .multi run ∧ run.mode = .list) :
      FallsBackTo slot (.list [value])

/-- Whether what happens to a slot goes with the tokens that it takes: its value is the one that its
strategy gives to them, and without a value or with its default it takes none. -/
def SlotOutcome.GoesWith (slot : Slot) (keywords : List String) (kept : List Token) :
    SlotOutcome → Prop
  | .filled value =>
    slot.strategy.Gives keywords kept value ∨ (kept = [] ∧ slot.FallsBackTo value)
  | .empty => kept = []
  | .failed _ => kept = []

/-- No text that a slot takes is a keyword, unless it takes all that is left. -/
theorem SlotOutcome.GoesWith.data {slot : Slot} {keywords : List String} {kept : List Token}
    {outcome : SlotOutcome} (h : outcome.GoesWith slot keywords kept)
    (hall : slot.strategy ≠ .all) {text : String} (htext : .text text ∈ kept) :
    text ∉ keywords := by
  have hsome : kept ≠ [] := List.ne_nil_of_mem htext
  cases outcome with
  | filled value =>
    rcases h with hgives | ⟨hnil, -⟩
    · exact hgives.data hall htext
    · exact absurd hnil hsome
  | empty => exact absurd h hsome
  | failed fault => exact absurd h hsome

section Slots

variable (slot : Slot) (ctx : SlotContext) (c : Cursor)

/-- A slot that takes nothing has its default if it has a value. -/
theorem unfilled_goesWith (keywords : List String) (refused : Option Token) :
    (slot.unfilled refused).GoesWith slot keywords [] := by
  unfold Slot.unfilled
  split
  · rename_i value hdefault
    exact .inr ⟨rfl, .default hdefault⟩
  · split
    · exact rfl
    · split <;> exact rfl

/-- A slot for one token takes it, or takes nothing. -/
theorem fillOne_takes :
    ∃ kept : List Token,
      Walk [ctx.separator] c kept.reverse (slot.fillOne ctx c).1 ∧
      (slot.fillOne ctx c).2.GoesWith slot ctx.keywords kept := by
  rw [Slot.fillOne_cases]
  split
  · exact ⟨[], .here, unfilled_goesWith slot ctx.keywords none⟩
  · rename_i token next hfetch
    have hread : Walk [ctx.separator] c [token] next := Walk.here.read List.mem_cons_self hfetch
    split
    · exact ⟨[], hread.back, unfilled_goesWith slot ctx.keywords none⟩
    · rename_i hkeyword
      have hdata : token.IsData ctx.keywords := isData_iff.mpr hkeyword
      split
      · rename_i value haccept
        exact ⟨[token], hread, .inl (gives_of_accept hdata haccept)⟩
      · exact ⟨[], hread.back, unfilled_goesWith slot ctx.keywords (some token)⟩

/-- The items of a run are what its tokens give. -/
theorem gather_items {α : Type} (collect? : String → Option α) (budget : Nat) :
    (gather ctx collect? budget c).items.map (some ∘ Prod.snd) =
      (gather ctx collect? budget c).items.map (ctx.gathered? collect? ∘ Prod.fst) := by
  induction budget generalizing c with
  | zero =>
    unfold gather
    split <;> rfl
  | succ budget ih =>
    unfold gather
    split
    · rfl
    · rename_i token next hfetch
      dsimp only
      split
      · rfl
      · rename_i item hitem
        have hgathered : ctx.gathered? collect? token = some item := hitem
        simp only [List.map_cons, Function.comp_apply, ih next, hgathered]

/-- A run keeps tokens that give one item each. -/
theorem gatherRun_takes {α : Type} (collect? : String → Option α) :
    ∃ kept : List Token, Walk [ctx.separator] c kept.reverse (gatherRun ctx collect? c).1 ∧
      kept.map (ctx.gathered? collect?) = (gatherRun ctx collect? c).2.map some := by
  unfold gatherRun
  split
  · exact ⟨[], .here, rfl⟩
  · rename_i next _
    dsimp only
    generalize next.remaining ctx.separator + 1 - ctx.laterRequired = budget
    have hgather := walk_gather ctx c (List.mem_singleton.mpr rfl) collect? budget
    have hitems := gather_items ctx c collect? budget
    unfold Gathered.settle
    dsimp only
    generalize (gather ctx collect? budget c).items.length - _ = count
    generalize (gather ctx collect? budget c).items = items at hgather hitems ⊢
    rw [← List.take_append_drop count items, List.map_append, List.reverse_append] at hgather
    refine ⟨_, hgather.pushBackAll, ?_⟩
    rw [List.map_map, List.map_map, List.map_take, ← hitems, ← List.map_take]

/-- A run without tokens has its default in the shape of its values, if there is one. -/
theorem fallsBackTo_emptyRun {slot : Slot} {mode : RunMode} {value : Value}
    (hdefault : slot.default = some value)
    (hlists : mode = .list →
      slot.strategy = .all ∨ ∃ run, slot.strategy = .multi run ∧ run.mode = .list) :
    slot.FallsBackTo (slot.emptyRun mode) := by
  cases mode with
  | list =>
    have hempty : slot.emptyRun .list = .list [value] := by simp [Slot.emptyRun, hdefault]
    rw [hempty]
    exact .listed hdefault (hlists rfl)
  | map =>
    have hempty : slot.emptyRun .map = value := by simp [Slot.emptyRun, hdefault]
    rw [hempty]
    exact .default hdefault

/-- The value of a run is the one that its items have, also without items, unless the slot falls
back then. -/
theorem outcomeOfRun_goesWith {α : Type} {slot : Slot} {keywords : List String} {mode : RunMode}
    {value : List α → Value} {items : List α} {kept : List Token}
    (hgives : slot.strategy.Gives keywords kept (value items))
    (hkept : items.length = kept.length)
    (hlists : mode = .list →
      slot.strategy = .all ∨ ∃ run, slot.strategy = .multi run ∧ run.mode = .list)
    (hempty : slot.default = none → slot.emptyRun mode = value []) :
    (slot.outcomeOfRun mode value items).GoesWith slot keywords kept := by
  cases items with
  | cons item items => exact .inl hgives
  | nil =>
    cases hdefault : slot.default with
    | none =>
      have houtcome : slot.outcomeOfRun mode value [] = .filled (value []) := by
        simp [Slot.outcomeOfRun, hempty hdefault]
      rw [houtcome]
      exact .inl hgives
    | some found =>
      have hnil : kept = [] := List.eq_nil_of_length_eq_zero hkept.symm
      exact .inr ⟨hnil, fallsBackTo_emptyRun hdefault hlists⟩

/-- A run takes the tokens that its value records, whatever is collected from them. -/
theorem collected_takes {α : Type} {run : Run} (hrun : slot.strategy = .multi run)
    (collect? : String → Option α) (value : List α → Value)
    (hrecords : ∀ (kept : List Token) (items : List α),
      kept.map (ctx.gathered? collect?) = items.map some → run.Records kept (value items))
    (hempty : slot.default = none → slot.emptyRun run.mode = value []) :
    ∃ kept : List Token, Walk [ctx.separator] c kept.reverse (gatherRun ctx collect? c).1 ∧
      (slot.outcomeOfRun run.mode value (gatherRun ctx collect? c).2).GoesWith slot ctx.keywords
        kept := by
  obtain ⟨kept, hwalk, hitems⟩ := gatherRun_takes ctx c collect?
  have hgives : slot.strategy.Gives ctx.keywords kept (value (gatherRun ctx collect? c).2) := by
    rw [hrun]
    obtain ⟨texts, htexts, hdata, -⟩ := texts_of_gathered hitems
    refine .multi (fun token htoken => ?_) (hrecords kept _ hitems)
    rw [htexts] at htoken
    obtain ⟨text, htext, rfl⟩ := List.mem_map.mp htoken
    exact ⟨text, rfl, hdata text htext⟩
  have hlength : (gatherRun ctx collect? c).2.length = kept.length := by
    have := congrArg List.length hitems
    rw [List.length_map, List.length_map] at this
    exact this.symm
  have hlists : run.mode = .list →
      slot.strategy = .all ∨ ∃ run, slot.strategy = .multi run ∧ run.mode = .list :=
    fun hmode => .inr ⟨run, hrun, hmode⟩
  exact ⟨kept, hwalk, outcomeOfRun_goesWith hgives hlength hlists hempty⟩

/-- A slot for a run takes the tokens that its value records. -/
theorem fillRun_takes {run : Run} (hrun : slot.strategy = .multi run) :
    ∃ kept : List Token, Walk [ctx.separator] c kept.reverse (slot.fillRun ctx run c).1 ∧
      (slot.fillRun ctx run c).2.GoesWith slot ctx.keywords kept := by
  unfold Slot.fillRun
  cases hmode : run.mode with
  | list =>
    have htakes := collected_takes slot ctx c hrun run.inner.capture? .list
    rw [hmode] at htakes
    refine htakes (fun kept items hitems => records_list hmode hitems) fun hdefault => ?_
    simp [Slot.emptyRun, hdefault]
  | map =>
    have htakes := collected_takes slot ctx c hrun run.entry? fun entries =>
      .map (NameMap.ofList entries).entries
    rw [hmode] at htakes
    refine htakes (fun kept items hitems => records_map hmode hitems) fun hdefault => ?_
    simp only [Slot.emptyRun, hdefault, Option.getD_none]
    rfl

/-- Reading all tokens that are left ends where there is none. -/
theorem fetchAll_last (separator : String) (c : Cursor) :
    (c.fetchAll separator).2.fetch separator = none := by
  fun_induction Cursor.fetchAll separator c with
  | case1 c h => exact h
  | case2 c token next h tokens last hlast ih =>
    rw [hlast] at ih
    exact ih

/-- A slot for all that is left takes all tokens that are read. -/
theorem fillRest_goesWith (hall : slot.strategy = .all) (keywords : List String) :
    (slot.fillRest ctx c).2.GoesWith slot keywords (c.fetchAll ctx.separator).1 := by
  have houtcome : (slot.fillRest ctx c).2 = slot.outcomeOfRun .list
      (fun tokens => .list (tokens.map .ofToken)) (c.fetchAll ctx.separator).1 := rfl
  rw [houtcome]
  refine outcomeOfRun_goesWith ?_ rfl (fun _ => .inl hall) fun hdefault => ?_
  · rw [hall]
    exact .all (List.forall₂_map_right_iff.mpr (List.forall₂_same.mpr fun t _ => unchanged_ofToken t))
  · simp [Slot.emptyRun, hdefault]

/-- What a slot takes at a cursor. -/
structure Slot.Takes (slot : Slot) (ctx : SlotContext) (c : Cursor) (kept : List Token) :
    Prop where
  /-- These are the tokens that stay read. -/
  walk : Walk [ctx.separator] c kept.reverse (slot.fill ctx c).1
  /-- The value of the slot is given by them. -/
  outcome : (slot.fill ctx c).2.GoesWith slot ctx.keywords kept
  /-- All that is left is taken up to the end. -/
  rest : slot.strategy = .all → (slot.fill ctx c).1.fetch ctx.separator = none

/-- A slot that takes one token at most takes what goes with its outcome. -/
theorem takes_single (hsingle : slot.strategy.isVariadic = false) :
    ∃ kept, slot.Takes ctx c kept := by
  have hfill : slot.fill ctx c = slot.fillOne ctx c := Slot.fill_single hsingle ctx c
  obtain ⟨kept, hwalk, houtcome⟩ := fillOne_takes slot ctx c
  rw [← hfill] at hwalk houtcome
  refine ⟨kept, hwalk, houtcome, fun hall => ?_⟩
  rw [hall] at hsingle
  cases hsingle

/-- Every slot takes tokens that go with what happens to it. -/
theorem exists_takes : ∃ kept, slot.Takes ctx c kept := by
  cases hstrategy : slot.strategy with
  | pattern p => exact takes_single slot ctx c (by rw [hstrategy]; rfl)
  | negated p => exact takes_single slot ctx c (by rw [hstrategy]; rfl)
  | union a => exact takes_single slot ctx c (by rw [hstrategy]; rfl)
  | any => exact takes_single slot ctx c (by rw [hstrategy]; rfl)
  | multi run =>
    have hfill : slot.fill ctx c = slot.fillRun ctx run c := by simp only [Slot.fill, hstrategy]
    obtain ⟨kept, hwalk, houtcome⟩ := fillRun_takes slot ctx c hstrategy
    rw [← hfill] at hwalk houtcome
    exact ⟨kept, hwalk, houtcome, fun hall => by cases hstrategy.symm.trans hall⟩
  | all =>
    have hfill : slot.fill ctx c = slot.fillRest ctx c := by simp only [Slot.fill, hstrategy]
    have hlisted : ctx.separator ∈ [ctx.separator] := List.mem_cons_self
    have hwalk : Walk [ctx.separator] c (c.fetchAll ctx.separator).1.reverse
        (slot.fillRest ctx c).1 := walk_fetchAll c hlisted
    have houtcome := fillRest_goesWith slot ctx c hstrategy ctx.keywords
    have hend : (slot.fillRest ctx c).1.fetch ctx.separator = none := fetchAll_last ..
    rw [← hfill] at hwalk houtcome hend
    exact ⟨_, hwalk, houtcome, fun _ => hend⟩

end Slots

/-! ### Texts that call something -/

/-- The tokens that were consumed, as they were read. -/
def Cursor.consumed (c : Cursor) : List Token :=
  (c.segments.flatMap Segment.tokens).take c.offset

/-- The tokens in front of the mark are those that were consumed. -/
theorem consumed_of_shows {own : String} {c : Cursor} {past left : List Token}
    (h : Shows own c past left) : c.consumed = past.reverse := by
  rw [Cursor.consumed, h.tokens, h.offset]
  exact List.take_left' (List.length_reverse ..)

/-- The tokens that a visit captures: those that were consumed when it ends, but not before it
begins. -/
def Visit.captured (v : Visit) : List Token := v.last.consumed.drop v.cursor.offset

/-- A slot captures the tokens that it takes. -/
theorem captured_of_takes {v : Visit} {own : String} (hc : v.cursor.Valid own) {kept : List Token}
    (h : v.slot.Takes v.ctx v.cursor kept) : v.captured = kept := by
  obtain ⟨before, left, hshows⟩ := hc
  obtain ⟨rest, hlast⟩ := h.walk.shows hshows
  have hconsumed : v.last.consumed = before.reverse ++ kept := by
    rw [Visit.last, consumed_of_shows hlast, List.reverse_append, List.reverse_reverse]
  have hoffset : v.cursor.offset = before.reverse.length := by
    rw [hshows.offset, List.length_reverse]
  rw [Visit.captured, hconsumed, hoffset, List.drop_left]

/-- The names of what a command is called for are keywords. -/
theorem mem_keywords_of_alias {command : Command} {member : Member}
    (hmember : member ∈ command.members) {name : String} (hname : name ∈ member.entry.aliases) :
    name ∈ command.keywords := by
  have hkeyword : name ∈ member.keywords := by
    cases member with
    | option e => exact hname
    | subcommand s => exact List.mem_append_left _ hname
  exact List.mem_flatMap.mpr ⟨member, hmember, hkeyword⟩

/-- A text that calls something and is no keyword is a name with an argument glued to it. -/
theorem glued_of_resolve {command : Command} {text : String} {member : Member}
    (hcalled : command.resolve? text = some member) (hdata : text ∉ command.keywords) :
    ∃ separator, member.entry.separator = some separator ∧
      (splitOnce text separator).1 ∈ member.entry.aliases ∧
      (splitOnce text separator).2 ≠ "" := by
  have hmember : member ∈ command.members := mem_of_callee hcalled
  rcases answers_of_callee hcalled with hname | hglued
  · exact absurd (mem_keywords_of_alias hmember hname) hdata
  · unfold Entry.answersGlued at hglued
    split at hglued
    · cases hglued
    · rename_i separator hseparator
      simp only [Bool.and_eq_true, bne_iff_ne] at hglued
      exact ⟨separator, hseparator, List.contains_iff_mem.mp hglued.1, hglued.2⟩

/-- No slot of a run captures a keyword, unless it takes all that is left. A text that it captures
though an option or a nested command is called by it is a name with an argument glued to it by the
separator that the option or nested command has. -/
theorem captured_glued {command : Command} {input : Input} {site : Site} {v : Visit}
    (h : command.Visits input site v) (hstrategy : v.slot.strategy ≠ .all) {text : String}
    (hcaptured : .text text ∈ v.captured) :
    text ∉ command.keywords ∧ ∀ member, command.resolve? text = some member →
      ∃ separator, member.entry.separator = some separator ∧
        (splitOnce text separator).1 ∈ member.entry.aliases ∧
        (splitOnce text separator).2 ≠ "" := by
  obtain ⟨start, slots, hstart, -, harises⟩ := h.arises
  obtain ⟨past, hwalk⟩ := harises.walk
  have hvalid : v.cursor.Valid command.separator := hwalk.valid ⟨_, _, tokenize_tokens hstart⟩
  obtain ⟨kept, htakes⟩ := exists_takes v.slot v.ctx v.cursor
  rw [captured_of_takes hvalid htakes] at hcaptured
  have hdata : text ∉ v.ctx.keywords := htakes.outcome.data hstrategy hcaptured
  rw [harises.keywords] at hdata
  exact ⟨hdata, fun member hcalled => glued_of_resolve hcalled hdata⟩

/-- A slot for some words. -/
def wordsSlot : Slot :=
  ⟨"words", .multi ⟨(Pattern.common? "str").get (by decide +kernel), .list⟩, none, false⟩

/-- A command that takes some words and the option for the receiver. -/
def tellCommand : Command :=
  (Command.ofConfig { CommandConfig.ofName "tell" with
    args := (SlotList.ofSlots [wordsSlot]).toOption.get (by decide)
    options := [receiverOption] }).toOption.get (by decide +kernel)

/-- The segments of a word with the receiver after it. -/
def tellSegments : List Segment := [.text ["tell", "hello", "--to=me"] " "]

/-- The words are gathered from behind the name of the command. -/
def tellVisit : Visit := .ofFirst " " tellCommand.keywords wordsSlot [] ⟨tellSegments, 0, 1⟩

/-- The words are gathered once. -/
theorem visits_tell : tellCommand.Visits (.text "tell hello --to=me") .main tellVisit := by
  have hbody : tellCommand.BodyAt (.text "tell hello --to=me") ⟨tellSegments, 0, 1⟩ :=
    ⟨⟨tellSegments, 0, 0⟩, .bool true, by rfl, by rfl⟩
  exact .main hbody ⟨fun _ => by rfl, .first wordsSlot [] _⟩

/-- The receiver is gathered as a word. -/
theorem captured_tell : .text "--to=me" ∈ tellVisit.captured := by
  have htexts : tellVisit.captured.filterMap Token.asText? = ["hello", "--to=me"] := by
    decide +kernel
  have hmem : "--to=me" ∈ tellVisit.captured.filterMap Token.asText? := by simp [htexts]
  obtain ⟨token, htoken, htext⟩ := List.mem_filterMap.mp hmem
  cases token with
  | unit u => cases htext
  | text text =>
    cases htext
    exact htoken

/-- The text that is gathered as a word is the name of the option with the receiver glued to it. -/
theorem captured_glued_tell :
    tellCommand.Visits (.text "tell hello --to=me") .main tellVisit ∧
      tellVisit.slot.strategy ≠ .all ∧ .text "--to=me" ∈ tellVisit.captured ∧
      "--to=me" ∉ tellCommand.keywords ∧
      ∀ member, tellCommand.resolve? "--to=me" = some member →
        ∃ separator, member.entry.separator = some separator ∧
          (splitOnce "--to=me" separator).1 ∈ member.entry.aliases ∧
          (splitOnce "--to=me" separator).2 ≠ "" := by
  have hstrategy : tellVisit.slot.strategy ≠ .all := fun h => by cases h
  exact ⟨visits_tell, hstrategy, captured_tell,
    captured_glued visits_tell hstrategy captured_tell⟩

/-- A slot after the header captures a text that calls an option: the receiver is kept as a word, so
the option has no values though the input matches, and nothing is left. -/
theorem run_captures_call :
    let result := tellCommand.run (.text "tell hello --to=me")
    (∃ v, tellCommand.Visits (.text "tell hello --to=me") .main v ∧ v.slot.strategy ≠ .all ∧
      .text "--to=me" ∈ v.captured) ∧
      tellCommand.resolve? "--to=me" = some (.option receiverOption) ∧
      result.matched = true ∧ result.options.get? "--to" = none ∧ result.remainder = [] := by
  intro result
  have hstrategy : tellVisit.slot.strategy ≠ .all := fun h => by cases h
  have hresolve : tellCommand.resolve? "--to=me" = some (.option receiverOption) := by rfl
  let main := tellCommand.config.args.fill " " tellCommand.keywords ⟨tellSegments, 0, 1⟩
  have hfault : main.fault = none := by
    have hnone : main.fault.isNone = true := by decide +kernel
    exact Option.isNone_iff_eq_none.mp hnone
  have hcalled : tellCommand.called? main.cursor = none := by
    have hnone : (tellCommand.called? main.cursor).isNone = true := by decide +kernel
    exact Option.isNone_iff_eq_none.mp hnone
  have hrest : main.cursor.rest = [] := by
    have hempty : main.cursor.rest.isEmpty = true := by decide +kernel
    exact List.isEmpty_iff.mp hempty
  have hrun : result = .conclude (.bool true) main.values .empty .empty [] none := by
    have hbody : result = tellCommand.runBody (.bool true) ⟨tellSegments, 0, 1⟩ := by rfl
    rw [hbody, Command.runBody_uncalled (.bool true) hfault hcalled]
    exact congrArg (MatchResult.conclude (.bool true) main.values .empty .empty · none) hrest
  rw [hrun]
  exact ⟨⟨tellVisit, visits_tell, hstrategy, captured_tell⟩, hresolve, rfl, rfl, rfl⟩

end CommandGrammar
