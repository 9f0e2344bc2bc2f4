import CommandGrammar.Proofs.CapturedTokens
import CommandGrammar.Proofs.LeftoverTokens

/-!
# Where captured values come from

Every value that a result keeps is that of a visit of its site, or a default. A visit is reached by
a walk and takes its tokens by another one. Where no entry has a separator of its own, walks read
the tokens of the input as they are, so the tokens that a visit takes stand one after the other in
the input, up to its end if they are all that is left.

`stored_value_origin` says so for every value of every result, whether the input matched or not.
-/

namespace CommandGrammar

open Cursor (Shows)

/-- Whether a value is given by tokens that stand one after the other in a list, by a strategy that
takes them; all that is left is taken up to the end of the list. -/
def Strategy.GivesFrom (strategy : Strategy) (keywords : List String) (tokens : List Token)
    (value : Value) : Prop :=
  ∃ kept, kept <:+: tokens ∧ (strategy = .all → kept <:+ tokens) ∧
    strategy.Gives keywords kept value

/-- The tokens that a slot takes behind a walk stand in the input, one after the other. -/
theorem infix_of_takes {command : Command} (hone : command.OneSeparator) {start : Cursor}
    {tokens : List Token} (hstart : Shows command.separator start [] tokens) {v : Visit}
    {past : List Token} (hwalk : Walk command.separators start past v.cursor)
    (hlisted : v.ctx.separator ∈ command.separators) {kept : List Token}
    (htakes : v.slot.Takes v.ctx v.cursor kept) :
    kept <:+: tokens ∧ (v.slot.strategy = .all → kept <:+ tokens) := by
  have hown : v.ctx.separator = command.separator := eq_of_mem_separators hone hlisted
  have hslot : Walk command.separators v.cursor kept.reverse v.last :=
    htakes.walk.mono fun found hfound => List.mem_singleton.mp hfound ▸ hlisted
  obtain ⟨rest, hlast, htokens⟩ := (hwalk.trans hslot).shows_whole hstart
    fun separator => eq_of_mem_separators hone
  have hsplit : past.reverse ++ kept ++ rest = tokens := by
    rw [← htokens, List.reverse_append, List.reverse_reverse]
  refine ⟨⟨past.reverse, rest, hsplit⟩, fun hall => ⟨past.reverse, ?_⟩⟩
  have hend : v.last.fetch command.separator = none := hown ▸ htakes.rest hall
  -- A token that is left could be read.
  cases rest with
  | nil => rwa [List.append_nil] at hsplit
  | cons token rest =>
    obtain ⟨next, hfetch, -⟩ := hlast.fetch_self
    cases hend.symm.trans hfetch

/-- The value of a visit is given by tokens of the input, or the slot falls back. -/
theorem origin_of_visit {command : Command} (hone : command.OneSeparator) {input : Input}
    {site : Site} {v : Visit} (h : command.Visits input site v) {value : Value}
    (hfilled : v.outcome = .filled value) :
    v.slot.FallsBackTo value ∨ v.slot.strategy.GivesFrom command.keywords
      (input.tokens command.separator command.config.excluded) value := by
  obtain ⟨start, slots, hstart, -, harises⟩ := h.arises
  obtain ⟨past, hwalk⟩ := harises.walk
  obtain ⟨kept, htakes⟩ := exists_takes v.slot v.ctx v.cursor
  obtain ⟨hwithin, hsuffix⟩ :=
    infix_of_takes hone (tokenize_tokens hstart) hwalk harises.separator htakes
  have houtcome : v.outcome.GoesWith v.slot v.ctx.keywords kept := htakes.outcome
  rw [hfilled, harises.keywords] at houtcome
  rcases houtcome with hgives | ⟨-, hfalls⟩
  · exact .inr ⟨kept, hwithin, hsuffix, hgives⟩
  · exact .inl hfalls

/-- Every value that a result keeps under the name of a slot is its default, the list of it for a
run of values and for all that is left, or what its strategy gives to tokens that stand one after
the other in the input. -/
theorem stored_value_origin {command : Command} (hone : command.OneSeparator) {input : Input}
    {site : Site} {values : SlotValues}
    (hsite : (command.run input).valuesAt? site = some values) {name : String} {value : Value}
    (hvalue : values.get? name = some value) :
    ∃ slots, command.slotsAt? site = some slots ∧ ∃ slot ∈ slots, slot.name = name ∧
      (slot.FallsBackTo value ∨ slot.strategy.GivesFrom command.keywords
        (input.tokens command.separator command.config.excluded) value) := by
  obtain ⟨slots, hslots, slot, hslot, hname, hsource⟩ := run_value hsite hvalue
  refine ⟨slots, hslots, slot, hslot, hname, ?_⟩
  rcases hsource with hdefault | ⟨v, hvisit, rfl, hfilled⟩
  · exact .inl (.default hdefault)
  · exact origin_of_visit hone hvisit hfilled

/-- The name behind an option of the order command is captured from the input. -/
theorem stored_value_origin_order :
    let input : Input := .chain [.text "order", .unit ⟨"isbn", .null⟩, .text "--gift anna later"]
    let values : SlotValues := NameMap.empty.insert "for" (.string "anna")
    orderCommand.OneSeparator ∧
      (orderCommand.run input).valuesAt? (.option "--gift") = some values ∧
      values.get? "for" = some (.string "anna") ∧
      ∃ slots, orderCommand.slotsAt? (.option "--gift") = some slots ∧
        ∃ slot ∈ slots, slot.name = "for" ∧
          (slot.FallsBackTo (.string "anna") ∨ slot.strategy.GivesFrom orderCommand.keywords
            (input.tokens orderCommand.separator orderCommand.config.excluded)
            (.string "anna")) := by
  intro input values
  let segments : List Segment :=
    [.text ["order"] " ", .unit ⟨"isbn", .null⟩, .text ["--gift", "anna", "later"] " "]
  let items : SlotValues := NameMap.empty.insert "item" (.unit ⟨"isbn", .null⟩)
  have hmain : orderCommand.config.args.fill orderCommand.separator orderCommand.keywords
      ⟨segments, 1, 0⟩ = ⟨⟨segments, 2, 0⟩, items, none⟩ := by rfl
  have hcalled : orderCommand.called? ⟨segments, 2, 0⟩ = some (.option giftOption) := by rfl
  have hfill : giftOption.fill orderCommand.separator orderCommand.keywords ⟨segments, 2, 0⟩ =
      ⟨⟨segments, 2, 2⟩, values, none⟩ := by rfl
  have hend : orderCommand.called? ⟨segments, 2, 2⟩ = none := by rfl
  have hmembers : orderCommand.fillMembers orderCommand.keywords ⟨segments, 2, 0⟩ .empty .empty =
      ⟨⟨segments, 2, 2⟩, NameMap.empty.insert "--gift" values, .empty, none⟩ := by
    rw [fillMembers_option hcalled, hfill]
    exact fillMembers_end hend _ _ _
  have hrun : orderCommand.run input =
      .conclude (.bool true) items (NameMap.empty.insert "--gift" values) .empty [.text "later"]
        none := by
    have hbody : orderCommand.run input =
        orderCommand.runBody (.bool true) ⟨segments, 1, 0⟩ := by rfl
    rw [hbody]
    unfold Command.runBody
    simp only [hmain, hmembers]
    rfl
  have hsite : (orderCommand.run input).valuesAt? (.option "--gift") = some values := by
    rw [hrun]
    rfl
  have hvalue : values.get? "for" = some (.string "anna") := by rfl
  exact ⟨oneSeparator_orderCommand, hsite, hvalue,
    stored_value_origin oneSeparator_orderCommand hsite hvalue⟩

end CommandGrammar
