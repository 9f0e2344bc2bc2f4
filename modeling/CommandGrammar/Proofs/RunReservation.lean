import CommandGrammar.Proofs.TokenSequence
import Mathlib.Data.List.Forall2

/-!
# What a run takes and what it leaves

A run may take all tokens but as many as there are required slots after it. If it comes to a
token that is not collected before that, it gives its last tokens back, as many as there are
such slots. `fill_multi_exact` states the number of tokens that are kept, the place of the
cursor behind them and the value that is written, for every run and every input.

What is written is told by the texts alone: `Run.IsEntry` says what the entry in a text is,
`Run.Records` which list or map is written for texts, and `Slot.EmptyRun` what is written without
any.
-/

namespace CommandGrammar

/-- What a token gives to a run. A keyword and a unit give nothing. -/
def SlotContext.gathered? {α : Type} (ctx : SlotContext) (collect? : String → Option α)
    (token : Token) : Option α :=
  if ctx.isKeyword token then none else token.asText?.bind collect?

/-- A token gives something to a run exactly if it is a text, no keyword, and something is collected
from it. -/
theorem gathered?_eq_some_iff {α : Type} {ctx : SlotContext} {collect? : String → Option α}
    {token : Token} {item : α} :
    ctx.gathered? collect? token = some item ↔
      ∃ text, token = .text text ∧ text ∉ ctx.keywords ∧ collect? text = some item := by
  unfold SlotContext.gathered? SlotContext.isKeyword
  cases token with
  | unit u => simp [Token.asText?]
  | text text => by_cases hkey : text ∈ ctx.keywords <;> simp [hkey, Token.asText?]

/-- Tokens that give one item each are texts and no keywords, and the items are collected from
them. -/
theorem texts_of_gathered {α : Type} {ctx : SlotContext} {collect? : String → Option α}
    {tokens : List Token} {items : List α}
    (h : tokens.map (ctx.gathered? collect?) = items.map some) :
    ∃ texts : List String, tokens = texts.map .text ∧ (∀ text ∈ texts, text ∉ ctx.keywords) ∧
      List.Forall₂ (fun text item => collect? text = some item) texts items := by
  induction tokens generalizing items with
  | nil =>
    obtain rfl := List.map_eq_nil_iff.mp h.symm
    exact ⟨[], rfl, by simp, .nil⟩
  | cons token tokens ih =>
    cases items with
    | nil => cases h
    | cons item items =>
      obtain ⟨hitem, hrest⟩ := List.cons.inj h
      obtain ⟨text, rfl, hdata, hcollected⟩ := gathered?_eq_some_iff.mp hitem
      obtain ⟨texts, rfl, hothers, hall⟩ := ih hrest
      exact ⟨text :: texts, rfl, List.forall_mem_cons.mpr ⟨hdata, hothers⟩, .cons hcollected hall⟩

/-! ### What a run collects and what it writes -/

/-- Whether a text is an entry of a run: a filled key, the first equals sign and what the pattern
captures behind it. -/
structure Run.IsEntry (run : Run) (text : String) (entry : String × Value) : Prop where
  /-- The key is filled. -/
  filled : entry.1 ≠ ""
  /-- No equals sign is in front of the one behind the key. -/
  bare : '=' ∉ entry.1.toList
  /-- The pattern captures what follows the equals sign. -/
  captured : ∃ rest, text = entry.1 ++ "=" ++ rest ∧ run.inner.capture? rest = some entry.2

/-- The text of an entry is cut where its key ends. -/
theorem splitAround?_entry {text key rest : String} :
    splitAround? text '=' = some (key, rest) ↔ '=' ∉ key.toList ∧ text = key ++ "=" ++ rest := by
  have htext : text = key ++ "=" ++ rest ↔ text.toList = key.toList ++ '=' :: rest.toList := by
    rw [← String.toList_inj]
    simp
  rw [splitAround?_eq_some_iff, htext]

/-- The entry that is read off a text is the one that the text is. -/
theorem entry?_eq_some_iff {run : Run} {text : String} {entry : String × Value} :
    run.entry? text = some entry ↔ run.IsEntry text entry := by
  unfold Run.entry?
  constructor
  · intro h
    split at h
    · cases h
    · rename_i key rest hcut
      split at h
      · cases h
      · rename_i hfilled
        obtain ⟨value, hvalue, rfl⟩ := Option.map_eq_some_iff.mp h
        obtain ⟨hbare, htext⟩ := splitAround?_entry.mp hcut
        exact ⟨hfilled, hbare, rest, htext, hvalue⟩
  · rintro ⟨hfilled, hbare, rest, htext, hvalue⟩
    rw [splitAround?_entry.mpr ⟨hbare, htext⟩]
    simp only [if_neg hfilled, hvalue, Option.map_some]

/-- Whether a run goes on over a token: it is a text but no keyword, and gives the list a value or
the map an entry. -/
inductive Run.Collects (run : Run) (keywords : List String) : Token → Prop
  /-- The pattern captures a value of the text. -/
  | value {text : String} {value : Value} (lists : run.mode = .list) (data : text ∉ keywords)
      (captured : run.inner.capture? text = some value) : Collects run keywords (.text text)
  /-- The text is an entry. -/
  | entry {text : String} {entry : String × Value} (maps : run.mode = .map)
      (data : text ∉ keywords) (reads : run.IsEntry text entry) : Collects run keywords (.text text)

/-- A list run goes on over the tokens that give it a value. -/
theorem collects_list {run : Run} (h : run.mode = .list) (ctx : SlotContext) (token : Token) :
    (ctx.gathered? run.inner.capture? token).isSome = true ↔ run.Collects ctx.keywords token := by
  rw [Option.isSome_iff_exists]
  constructor
  · rintro ⟨value, hvalue⟩
    obtain ⟨text, rfl, hdata, hcaptured⟩ := gathered?_eq_some_iff.mp hvalue
    exact .value h hdata hcaptured
  · rintro (⟨-, hdata, hcaptured⟩ | ⟨hmaps, -, -⟩)
    · exact ⟨_, gathered?_eq_some_iff.mpr ⟨_, rfl, hdata, hcaptured⟩⟩
    · cases h.symm.trans hmaps

/-- A map run goes on over the tokens that give it an entry. -/
theorem collects_map {run : Run} (h : run.mode = .map) (ctx : SlotContext) (token : Token) :
    (ctx.gathered? run.entry? token).isSome = true ↔ run.Collects ctx.keywords token := by
  rw [Option.isSome_iff_exists]
  constructor
  · rintro ⟨entry, hentry⟩
    obtain ⟨text, rfl, hdata, hreads⟩ := gathered?_eq_some_iff.mp hentry
    exact .entry h hdata (entry?_eq_some_iff.mp hreads)
  · rintro (⟨hlists, -, -⟩ | ⟨-, hdata, hreads⟩)
    · cases h.symm.trans hlists
    · exact ⟨_, gathered?_eq_some_iff.mpr ⟨_, rfl, hdata, entry?_eq_some_iff.mpr hreads⟩⟩

/-- What a map keeps of entries: the last one of every name, in order of the names. -/
structure LastOfEach {α : Type} (entries kept : List (String × α)) : Prop where
  /-- The names are in order, each of them once. -/
  sorted : kept.Pairwise fun one other => one.1 < other.1
  /-- The entries kept are those without a later one of their name. -/
  last : ∀ entry, entry ∈ kept ↔
    ∃ front back, entries = front ++ entry :: back ∧ ∀ later ∈ back, later.1 ≠ entry.1

/-- The map of a list of entries keeps the last one of every name. -/
theorem lastOfEach_ofList {α : Type} (entries : List (String × α)) :
    LastOfEach entries (NameMap.ofList entries).entries :=
  ⟨(NameMap.ofList entries).sorted, fun _ => NameMap.mem_entries_ofList⟩

/-- Whether a value is what a run writes for tokens, which are texts. -/
inductive Run.Records (run : Run) : List Token → Value → Prop
  /-- The list of the values that the pattern captures of the texts, in order. -/
  | values {texts : List String} {values : List Value} (lists : run.mode = .list)
      (captured : List.Forall₂ (fun text value => run.inner.capture? text = some value)
        texts values) : Records run (texts.map .text) (.list values)
  /-- The map of the entries that the texts are, in which the last entry of a key stays. -/
  | entries {texts : List String} {entries kept : List (String × Value)} (maps : run.mode = .map)
      (read : List.Forall₂ run.IsEntry texts entries) (last : LastOfEach entries kept) :
      Records run (texts.map .text) (.map kept)

/-- The list of the values that tokens give is recorded. -/
theorem records_list {run : Run} (h : run.mode = .list) {ctx : SlotContext} {tokens : List Token}
    {values : List Value}
    (hvalues : tokens.map (ctx.gathered? run.inner.capture?) = values.map some) :
    run.Records tokens (.list values) := by
  obtain ⟨texts, rfl, -, hcaptured⟩ := texts_of_gathered hvalues
  exact .values h hcaptured

/-- The map of the entries that tokens give is recorded. -/
theorem records_map {run : Run} (h : run.mode = .map) {ctx : SlotContext} {tokens : List Token}
    {entries : List (String × Value)}
    (hentries : tokens.map (ctx.gathered? run.entry?) = entries.map some) :
    run.Records tokens (.map (NameMap.ofList entries).entries) := by
  obtain ⟨texts, rfl, -, hread⟩ := texts_of_gathered hentries
  exact .entries h (hread.imp fun _ _ => entry?_eq_some_iff.mp) (lastOfEach_ofList entries)

/-- The value that a slot has after a run without tokens. -/
inductive Slot.EmptyRun (slot : Slot) : RunMode → Value → Prop
  /-- The list of the default. -/
  | defaultListed {value : Value} (given : slot.default = some value) :
      EmptyRun slot .list (.list [value])
  /-- The empty list without a default. -/
  | nothingListed (bare : slot.default = none) : EmptyRun slot .list (.list [])
  /-- The default as it is, for a map. -/
  | defaultMapped {value : Value} (given : slot.default = some value) : EmptyRun slot .map value
  /-- The empty map without a default. -/
  | nothingMapped (bare : slot.default = none) : EmptyRun slot .map (.map [])

/-- The value that is written for a run without tokens. -/
theorem emptyRun_spec (slot : Slot) (mode : RunMode) : slot.EmptyRun mode (slot.emptyRun mode) := by
  unfold Slot.emptyRun
  cases mode with
  | list =>
    cases hdefault : slot.default with
    | none => exact .nothingListed hdefault
    | some value => exact .defaultListed hdefault
  | map =>
    cases hdefault : slot.default with
    | none => exact .nothingMapped hdefault
    | some value => exact .defaultMapped hdefault

/-! ### The tokens of a run -/

open Cursor (Shows)

/-- Gathering takes the tokens that give something, up to the budget, and is stopped by a
token within the budget that gives nothing. -/
theorem gather_shows {α : Type} {ctx : SlotContext} {collect? : String → Option α}
    (budget : Nat) {c : Cursor} {past left : List Token}
    (h : Shows ctx.separator c past left) :
    let run := gather ctx collect? budget c
    let taken := min budget (left.takeWhile fun t => (ctx.gathered? collect? t).isSome).length
    Shows ctx.separator run.last ((left.take taken).reverse ++ past) (left.drop taken) ∧
      run.last.segments = c.segments ∧
      run.items.map Prod.fst = left.take taken ∧
      run.items.map (some ∘ Prod.snd) = (left.take taken).map (ctx.gathered? collect?) ∧
      run.stopped = decide (taken < budget ∧ taken < left.length) := by
  induction budget generalizing c past left with
  | zero =>
    cases left with
    | nil => simp [gather, h.fetch_nil, h]
    | cons token left =>
      obtain ⟨next, hfetch, hnext, hsegments⟩ := h.fetch_self
      simp [gather, hfetch, hnext.pushBack, hsegments]
  | succ budget ih =>
    cases left with
    | nil => simp [gather, h.fetch_nil, h]
    | cons token left =>
      obtain ⟨next, hfetch, hnext, hsegments⟩ := h.fetch_self
      rw [gather]
      cases hitem : ctx.gathered? collect? token with
      | none =>
        have hstop := hitem
        unfold SlotContext.gathered? at hstop
        simp [hfetch, hstop, hitem, hnext.pushBack, hsegments]
      | some item =>
        have hgo := hitem
        unfold SlotContext.gathered? at hgo
        obtain ⟨hlast, hsame, htokens, hitems, hstopped⟩ := ih hnext
        rw [hsegments] at hsame
        simp only [hfetch, hgo, List.takeWhile_cons, hitem, Option.isSome_some, if_true,
          List.length_cons, Nat.add_min_add_right, List.take_succ_cons, List.drop_succ_cons,
          List.reverse_cons, List.append_assoc, List.singleton_append, List.map_cons,
          Function.comp_apply, Nat.add_lt_add_iff_right]
        exact ⟨hlast, hsame, by rw [htokens], by rw [hitems], hstopped⟩

/-- How many tokens a run keeps, if it could take some of those available and a number of slots
come later: all that need not be left to them, or, if it is stopped before, what it gathered
without the last ones. -/
def keptCount (available runLength later : Nat) : Nat :=
  if available - later ≤ runLength then available - later
  else runLength - min runLength later

/-- A run leaves a token for every later slot, as far as there are tokens. -/
theorem min_le_sub_keptCount (available runLength later : Nat) :
    min later available ≤ available - keptCount available runLength later := by
  unfold keptCount
  split <;> omega

/-- Giving back the last tokens that were gathered leaves the mark behind those that are
kept. -/
theorem settle_shows {α : Type} {own : String} {g : Gathered α} {past left : List Token}
    {taken : Nat} {item? : Token → Option α}
    (hlast : Shows own g.last ((left.take taken).reverse ++ past) (left.drop taken))
    (htokens : g.items.map Prod.fst = left.take taken)
    (hitems : g.items.map (some ∘ Prod.snd) = (left.take taken).map item?)
    (hle : taken ≤ left.length) (later : Nat) :
    let kept := taken - if g.stopped then min taken later else 0
    Shows own (g.settle later).1 ((left.take kept).reverse ++ past) (left.drop kept) ∧
      (g.settle later).1.segments = g.last.segments ∧
      (g.settle later).2.map some = (left.take kept).map item? := by
  have hlength : g.items.length = taken := by
    have := congrArg List.length htokens
    rw [List.length_map, List.length_take] at this
    omega
  dsimp only [Gathered.settle]
  rw [hlength]
  generalize hkept : taken - (if g.stopped then min taken later else 0) = kept
  have hkept : kept ≤ taken := by omega
  have hfront : (left.take taken).take kept = left.take kept := by
    rw [List.take_take, Nat.min_eq_left hkept]
  have hsplit := List.take_append_drop kept (left.take taken)
  rw [hfront] at hsplit
  have hback : (left.take taken).drop kept ++ left.drop taken = left.drop kept := by
    rw [← List.drop_append_of_le_length (by rw [List.length_take]; omega),
      List.take_append_drop]
  refine ⟨?_, by rw [Cursor.pushBackAll_segments], ?_⟩
  · rw [List.map_drop, htokens, ← hback]
    rw [← hsplit, List.reverse_append, List.append_assoc] at hlast
    exact hlast.pushBackAll
  · rw [List.map_map, List.map_take, hitems, ← List.map_take, hfront]

/-- The run at a cursor keeps the number of tokens that `keptCount` says. -/
theorem gatherRun_shows {α : Type} {ctx : SlotContext} {collect? : String → Option α}
    {c : Cursor} {past left : List Token} (h : Shows ctx.separator c past left) :
    let kept := keptCount left.length
      (left.takeWhile fun t => (ctx.gathered? collect? t).isSome).length ctx.laterRequired
    let result := gatherRun ctx collect? c
    Shows ctx.separator result.1 ((left.take kept).reverse ++ past) (left.drop kept) ∧
      result.1.segments = c.segments ∧
      result.2.map some = (left.take kept).map (ctx.gathered? collect?) := by
  cases left with
  | nil => simp [gatherRun, h.fetch_nil, h]
  | cons token left =>
    obtain ⟨next, hfetch, hnext, -⟩ := h.fetch_self
    have hbudget : next.remaining ctx.separator + 1 - ctx.laterRequired =
        (token :: left).length - ctx.laterRequired := by rw [hnext.remaining_self, List.length_cons]
    have hgather := @gather_shows _ ctx collect? ((token :: left).length - ctx.laterRequired) _ _ _ h
    simp only [gatherRun, hfetch, hbudget]
    generalize gather ctx collect? ((token :: left).length - ctx.laterRequired) c = run at hgather
    generalize hall : token :: left = all at hgather h ⊢
    have hlen : (all.takeWhile fun t => (ctx.gathered? collect? t).isSome).length ≤ all.length :=
      (List.takeWhile_sublist _).length_le
    generalize (all.takeWhile fun t => (ctx.gathered? collect? t).isSome).length = m at *
    obtain ⟨hlast, hsame, htokens, hitems, hstopped⟩ := hgather
    have hsettle := settle_shows hlast htokens hitems (by omega) ctx.laterRequired
    have hkept : min (all.length - ctx.laterRequired) m -
        (if run.stopped then min (min (all.length - ctx.laterRequired) m) ctx.laterRequired else 0) =
          keptCount all.length m ctx.laterRequired := by
      rw [hstopped]
      unfold keptCount
      by_cases hle : all.length - ctx.laterRequired ≤ m
      · simp [hle]
      · have hlt : m < all.length - ctx.laterRequired := by omega
        have havailable : m < all.length := by omega
        simp [hle, Nat.min_eq_right (Nat.le_of_lt hlt), hlt, havailable]
    rw [hkept] at hsettle
    exact ⟨hsettle.1, hsettle.2.1.trans hsame, hsettle.2.2⟩

/-- No run keeps more tokens than there are. -/
theorem keptCount_le {available runLength : Nat} (h : runLength ≤ available) (later : Nat) :
    keptCount available runLength later ≤ available := by
  unfold keptCount
  split <;> omega

/-- How many items at the front of a list have a property, up to the first that has not. -/
structure LongestFront {α : Type} (p : α → Prop) (items : List α) (count : Nat) : Prop where
  /-- There are so many items. -/
  within : count ≤ items.length
  /-- They all have the property. -/
  front : ∀ item ∈ items.take count, p item
  /-- The item after them has not. -/
  stops : ∀ item, items[count]? = some item → ¬ p item

/-- The items are counted with a test for the property. -/
theorem longestFront_takeWhile {α : Type} {p : α → Prop} {test : α → Bool}
    (h : ∀ item, test item = true ↔ p item) (items : List α) :
    LongestFront p items (items.takeWhile test).length := by
  induction items with
  | nil => exact ⟨Nat.le_refl 0, by simp, by simp⟩
  | cons item items ih =>
    cases htest : test item with
    | true =>
      rw [List.takeWhile_cons_of_pos htest, List.length_cons]
      refine ⟨Nat.succ_le_succ ih.within, ?_, ih.stops⟩
      rw [List.take_succ_cons]
      exact List.forall_mem_cons.mpr ⟨(h item).mp htest, ih.front⟩
    | false =>
      have hnot : ¬ p item := fun hp => by cases htest.symm.trans ((h item).mpr hp)
      rw [List.takeWhile_cons_of_neg (by simp [htest])]
      exact ⟨Nat.zero_le _, by simp, by simpa using hnot⟩

/-- There is one such number. -/
theorem LongestFront.unique {α : Type} {p : α → Prop} {items : List α} {one other : Nat}
    (hone : LongestFront p items one) (hother : LongestFront p items other) : one = other := by
  -- The item behind the shorter front would be in the longer one.
  have hle : ∀ {short long : Nat}, LongestFront p items short → LongestFront p items long →
      long ≤ short := by
    intro short long hshort hlong
    refine Nat.le_of_not_lt fun hlt => ?_
    have hin : short < items.length := Nat.lt_of_lt_of_le hlt hlong.within
    have hitem : items[short] ∈ items.take long :=
      List.mem_take_iff_getElem.mpr ⟨short, by omega, rfl⟩
    exact hshort.stops _ (List.getElem?_eq_getElem hin) (hlong.front _ hitem)
  exact Nat.le_antisymm (hle hother hone) (hle hone hother)

/-- The items of a run are what the tokens it keeps give, one for each, where a property says which
tokens belong to the run. -/
theorem gatherRun_exact {α : Type} {ctx : SlotContext} {collect? : String → Option α}
    {c : Cursor} {past left : List Token} (h : Shows ctx.separator c past left)
    {collects : Token → Prop}
    (hcollects : ∀ token, (ctx.gathered? collect? token).isSome = true ↔ collects token) :
    ∃ runLength, LongestFront collects left runLength ∧
      let kept := keptCount left.length runLength ctx.laterRequired
      let result := gatherRun ctx collect? c
      Shows ctx.separator result.1 ((left.take kept).reverse ++ past) (left.drop kept) ∧
        result.1.segments = c.segments ∧ result.2.length = kept ∧
        (left.take kept).map (ctx.gathered? collect?) = result.2.map some := by
  have hfront := longestFront_takeWhile hcollects left
  obtain ⟨hshows, hsame, hitems⟩ := @gatherRun_shows _ ctx collect? _ _ _ h
  refine ⟨_, hfront, hshows, hsame, ?_, hitems.symm⟩
  have hlength := congrArg List.length hitems
  rw [List.length_map, List.length_map, List.length_take] at hlength
  exact hlength.trans (Nat.min_eq_left (keptCount_le hfront.within _))

/-- A slot is filled with the value of the items of a run, or of an empty run without any. -/
theorem outcomeOfRun_filled {α : Type} (slot : Slot) (mode : RunMode) {value : List α → Value}
    {items : List α} {records : Value → Prop} (h : records (value items)) :
    ∃ found, slot.outcomeOfRun mode value items = .filled found ∧
      if items.length = 0 then slot.EmptyRun mode found else records found := by
  refine ⟨_, rfl, ?_⟩
  cases items with
  | nil => exact emptyRun_spec slot mode
  | cons item rest => exact h

/-- A slot for a run is filled with a value that records what the run keeps, or with the value
of an empty run, and the cursor is behind the tokens that are kept. -/
theorem fillRun_shows (slot : Slot) (run : Run) {ctx : SlotContext} {c : Cursor}
    {past left : List Token} (h : Shows ctx.separator c past left) :
    ∃ runLength, LongestFront (run.Collects ctx.keywords) left runLength ∧
      let kept := keptCount left.length runLength ctx.laterRequired
      let result := slot.fillRun ctx run c
      Shows ctx.separator result.1 ((left.take kept).reverse ++ past) (left.drop kept) ∧
        result.1.segments = c.segments ∧
        ∃ value, result.2 = .filled value ∧
          if kept = 0 then slot.EmptyRun run.mode value else run.Records (left.take kept) value := by
  cases hmode : run.mode with
  | list =>
    obtain ⟨runLength, hfront, hshows, hsame, hlength, hitems⟩ :=
      gatherRun_exact h (collects_list hmode ctx)
    have hresult : slot.fillRun ctx run c = ((gatherRun ctx run.inner.capture? c).1,
        slot.outcomeOfRun .list .list (gatherRun ctx run.inner.capture? c).2) := by
      simp only [Slot.fillRun, hmode]
    have hvalue := outcomeOfRun_filled slot .list (records_list hmode hitems)
    rw [hlength] at hvalue
    rw [hresult]
    exact ⟨runLength, hfront, hshows, hsame, hvalue⟩
  | map =>
    obtain ⟨runLength, hfront, hshows, hsame, hlength, hitems⟩ :=
      gatherRun_exact h (collects_map hmode ctx)
    have hresult : slot.fillRun ctx run c = ((gatherRun ctx run.entry? c).1, slot.outcomeOfRun .map
        (fun entries => .map (NameMap.ofList entries).entries) (gatherRun ctx run.entry? c).2) := by
      simp only [Slot.fillRun, hmode]
    have hvalue := @outcomeOfRun_filled _ slot .map
      (fun entries => .map (NameMap.ofList entries).entries) _ _ (records_map hmode hitems)
    rw [hlength] at hvalue
    rw [hresult]
    exact ⟨runLength, hfront, hshows, hsame, hvalue⟩

/-- What filling a slot for a run gives when it keeps a number of tokens. -/
structure Slot.KeepsRun (slot : Slot) (run : Run) (ctx : SlotContext) (c : Cursor) (kept : Nat) :
    Prop where
  /-- The segments stay as they are. -/
  segments : (slot.fill ctx c).1.segments = c.segments
  /-- The cursor is so many tokens further. -/
  offset : (slot.fill ctx c).1.offset = c.offset + kept
  /-- The tokens behind them are left. -/
  left : (slot.fill ctx c).1.left = c.left.drop kept
  /-- There is one for every required slot that comes later, as far as there are tokens. -/
  spared : min ctx.laterRequired c.left.length ≤ (slot.fill ctx c).1.remaining ctx.separator
  /-- The slot has a value and writes it: the one of the tokens that are kept, or of an empty run. -/
  written : ∃ value, (slot.fill ctx c).2 = .filled value ∧
    (∀ values, slot.fillInto ctx c values =
      ⟨(slot.fill ctx c).1, values.insert slot.name value, none⟩) ∧
    if kept = 0 then slot.EmptyRun run.mode value else run.Records (c.left.take kept) value

/-- The exact outcome of a run. It keeps `keptCount` tokens, where the run could take the longest
front part of the tokens that it collects, leaves the cursor behind them and a token for every later
required slot as far as there are tokens, and writes what the kept tokens give, or the value of an
empty run. -/
theorem fill_multi_exact {slot : Slot} {run : Run} (hrun : slot.strategy = .multi run)
    (ctx : SlotContext) {c : Cursor} (hsound : c.Sound) (howned : c.OwnedBy ctx.separator) :
    ∃ runLength, LongestFront (run.Collects ctx.keywords) c.left runLength ∧
      slot.KeepsRun run ctx c (keptCount c.left.length runLength ctx.laterRequired) := by
  obtain ⟨past, h⟩ := hsound.shows howned
  have hresult : slot.fill ctx c = slot.fillRun ctx run c := by simp only [Slot.fill, hrun]
  obtain ⟨runLength, hfront, hshows, hsame, value, hfilled, hvalue⟩ := fillRun_shows slot run h
  rw [← hresult] at hshows hsame hfilled
  refine ⟨runLength, hfront, ⟨hsame, ?_, hshows.left_eq, ?_, value, hfilled, ?_, hvalue⟩⟩
  · rw [hshows.offset, h.offset, List.length_append, List.length_reverse, List.length_take,
      Nat.min_eq_left (keptCount_le hfront.within _), Nat.add_comm]
  · rw [hshows.remaining_self, List.length_drop]
    exact min_le_sub_keptCount _ _ _
  · exact Slot.fillInto_of_filled hfilled

/-- How many tokens are kept is counted with a test for what the run collects. -/
theorem keepsRun_of_count {slot : Slot} {run : Run} {ctx : SlotContext} {c : Cursor}
    {test : Token → Bool} (htest : ∀ token, test token = true ↔ run.Collects ctx.keywords token)
    (h : ∃ runLength, LongestFront (run.Collects ctx.keywords) c.left runLength ∧
      slot.KeepsRun run ctx c (keptCount c.left.length runLength ctx.laterRequired)) {kept : Nat}
    (hkept : keptCount c.left.length (c.left.takeWhile test).length ctx.laterRequired = kept) :
    slot.KeepsRun run ctx c kept := by
  obtain ⟨runLength, hfront, hkeeps⟩ := h
  rwa [hfront.unique (longestFront_takeWhile htest _), hkept] at hkeeps

/-- A run of numbers, in a list or under keys. -/
def numberRun (mode : RunMode) : Run :=
  ⟨(Pattern.make? "[0-9]+" .int none).get (by decide +kernel), mode⟩

/-- A slot for numbers. -/
def numberSlot (mode : RunMode) (default : Option Value) : Slot :=
  ⟨"xs", .multi (numberRun mode), default, false⟩

/-- Two numbers, a unit and one more number, in three segments. -/
def numberCursor : Cursor :=
  .ofSegments [.text ["1", "2"] " ", .unit ⟨"at", .null⟩, .text ["4"] " "]

/-- Entries for two keys, one of them twice, and the end. -/
def entryCursor : Cursor := .ofSegments [.text ["a=1", "b=2", "a=3", "end"] " "]

/-- Two numbers are gathered before a unit stops the run. One of four tokens is to be left, so
the second number is given back, over the edge of its text. Of three entries in front of a keyword
the last one of each key stays. Where a keyword stands first, the default is listed. -/
theorem fill_multi_exact_stopped :
    let listed := numberSlot .list (some (.int 0))
    let mapped := numberSlot .map none
    (numberCursor.Sound ∧ numberCursor.OwnedBy " " ∧ entryCursor.Sound ∧ entryCursor.OwnedBy " ") ∧
      (listed.KeepsRun (numberRun .list) ⟨" ", [], 1⟩ numberCursor 1 ∧
        (listed.fill ⟨" ", [], 1⟩ numberCursor).2 = .filled (.list [.int 1])) ∧
      (mapped.KeepsRun (numberRun .map) ⟨" ", ["end"], 0⟩ entryCursor 3 ∧
        (mapped.fill ⟨" ", ["end"], 0⟩ entryCursor).2 =
          .filled (.map [("a", .int 3), ("b", .int 2)])) ∧
      (listed.KeepsRun (numberRun .list) ⟨" ", ["1"], 0⟩ numberCursor 0 ∧
        (listed.fill ⟨" ", ["1"], 0⟩ numberCursor).2 = .filled (.list [.int 0])) := by
  intro listed mapped
  have hnumbers : Shows " " numberCursor []
      [.text "1", .text "2", .unit ⟨"at", .null⟩, .text "4"] :=
    Cursor.shows_ofSegments (by simp [Segment.OwnedBy]) (by simp [Segment.size])
  have hentries : Shows " " entryCursor [] [.text "a=1", .text "b=2", .text "a=3", .text "end"] :=
    Cursor.shows_ofSegments (by simp [Segment.OwnedBy]) (by simp [Segment.size])
  have hlisted := @fill_multi_exact listed (numberRun .list) rfl
  have hmapped := @fill_multi_exact mapped (numberRun .map) rfl
  refine ⟨⟨hnumbers.sound, hnumbers.owned, hentries.sound, hentries.owned⟩, ⟨?_, by rfl⟩,
    ⟨?_, by rfl⟩, ⟨?_, by rfl⟩⟩
  · exact keepsRun_of_count (collects_list rfl _) (hlisted _ hnumbers.sound hnumbers.owned)
      (by decide +kernel)
  · exact keepsRun_of_count (collects_map rfl _) (hmapped _ hentries.sound hentries.owned)
      (by decide +kernel)
  · exact keepsRun_of_count (collects_list rfl _) (hlisted _ hnumbers.sound hnumbers.owned)
      (by decide +kernel)

end CommandGrammar
