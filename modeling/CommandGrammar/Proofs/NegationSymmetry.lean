import CommandGrammar.Proofs.CapturedTokens

/-!
# Alternatives that are refused or taken

A slot for alternatives takes what none of them holds of, or with the negation set what one of them
holds of. The two slots are each other's opposite: what one of them keeps the other hands back.

A slot for one token reads a candidate and then serves it, so that a slot can be asked about any
candidate at any cursor, also about one that nothing would read there. `negation_symmetry` compares
the two slots there, and says that filling them is serving them what is read.
-/

namespace CommandGrammar

/-- Whether reading at a cursor offers a candidate, with the cursor behind it. -/
inductive Cursor.Offers (separator : String) (start : Cursor) : Option Token → Cursor → Prop
  /-- There is nothing to read. -/
  | nothing (read : start.fetch separator = none) : Offers separator start none start
  /-- A token is read. -/
  | token {token : Token} {next : Cursor} (read : start.fetch separator = some (token, next)) :
      Offers separator start (some token) next

/-- What a slot gives that does not keep a token which might be an argument: the token is handed
back, and the slot has its default, stays empty if it may, or fails. -/
inductive Slot.HandsBack (slot : Slot) (token : Token) (c : Cursor) (values : SlotValues) :
    Filling → Prop
  /-- The slot has its default. -/
  | default {value : Value} (given : slot.default = some value) :
      HandsBack slot token c values ⟨c.pushBack token, values.insert slot.name value, none⟩
  /-- The slot stays empty. -/
  | empty (bare : slot.default = none) (optional : slot.optional = true) :
      HandsBack slot token c values ⟨c.pushBack token, values, none⟩
  /-- The slot fails and names the token. -/
  | failed (bare : slot.default = none) (required : slot.optional = false) :
      HandsBack slot token c values
        ⟨c.pushBack token, values, some (.unmatched slot.name token.display)⟩

/-- A token that may be an argument is not taken for a keyword. -/
theorem not_isKeyword_of_isData {ctx : SlotContext} {token : Token}
    (h : token.IsData ctx.keywords) : ctx.isKeyword token = false :=
  Bool.eq_false_iff.mpr (isData_iff.mp h)

namespace Slot

/-- The same slot for alternatives, which are refused or taken. -/
def forUnion (slot : Slot) (a : Alternatives) (negated : Bool) : Slot :=
  { slot with strategy := .union { a with negated } }

section Serving

variable {slot : Slot} {ctx : SlotContext} {c : Cursor} {values : SlotValues}

/-- Filling a slot for one token is serving it what is read. -/
theorem fillInto_of_offers (hsingle : slot.strategy.isVariadic = false) {start : Cursor}
    {candidate : Option Token} (h : start.Offers ctx.separator candidate c) :
    slot.fillInto ctx start values = slot.record values (slot.serve ctx candidate c) := by
  rw [fillInto, fill_single hsingle, fillOne]
  cases h with
  | nothing hread => rw [hread]
  | token hread => rw [hread]

/-- A token that the strategy accepts is kept. -/
theorem record_of_accepted {token : Token} {value : Value} (h : token.IsData ctx.keywords)
    (haccept : slot.strategy.accept? token = some value) :
    slot.record values (slot.serve ctx (some token) c) =
      ⟨c, values.insert slot.name value, none⟩ := by
  rw [serve_of_accepted (not_isKeyword_of_isData h) haccept]
  rfl

/-- A token that the strategy does not accept is handed back. -/
theorem handsBack_of_refused {token : Token} (h : token.IsData ctx.keywords)
    (haccept : slot.strategy.accept? token = none) :
    slot.HandsBack token c values (slot.record values (slot.serve ctx (some token) c)) := by
  have hkeyword : ctx.isKeyword token = false := not_isKeyword_of_isData h
  have hserve : slot.serve ctx (some token) c =
      (c.pushBack token, slot.unfilled (some token)) := by
    rw [serve_of_refused hkeyword haccept, fallBack, ctx.data?_of_not_keyword hkeyword]
    rfl
  rw [hserve, unfilled]
  cases hdefault : slot.default with
  | some value => exact .default hdefault
  | none =>
    cases hoptional : slot.optional with
    | true => exact .empty hdefault hoptional
    | false => exact .failed hdefault hoptional

end Serving

/-- Handing back does not depend on the strategy. -/
theorem HandsBack.of_forUnion {slot : Slot} {a : Alternatives} {negated : Bool} {token : Token}
    {c : Cursor} {values : SlotValues} {result : Filling}
    (h : (slot.forUnion a negated).HandsBack token c values result) :
    slot.HandsBack token c values result := by
  cases h with
  | default hgiven => exact .default hgiven
  | empty hbare hoptional => exact .empty hbare hoptional
  | failed hbare hrequired => exact .failed hbare hrequired

/-- A slot that has nothing it might take does the same whether alternatives are refused or
taken. -/
theorem serve_forUnion_of_no_data (slot : Slot) (a : Alternatives) {ctx : SlotContext}
    {candidate : Option Token} (h : ctx.data? candidate = none) (c : Cursor) :
    (slot.forUnion a false).serve ctx candidate c =
      (slot.forUnion a true).serve ctx candidate c := by
  rw [serve_of_no_data h, serve_of_no_data h]
  rfl

end Slot

/-! ### The two sides -/

/-- Where no alternative holds of a token, the slot that refuses them accepts it as it is, and the
slot that takes them does not accept it. -/
theorem accept?_of_none {a : Alternatives} {token : Token}
    (h : ∀ value, ¬ a.FirstGives token value) (slot : Slot) :
    (∃ value, token.Unchanged value ∧
      (slot.forUnion a false).strategy.accept? token = some value) ∧
      (slot.forUnion a true).strategy.accept? token = none := by
  have hhit : a.hit? token = none :=
    Option.eq_none_iff_forall_ne_some.mpr fun value hvalue => h value (firstGives_of_hit hvalue)
  have hsame : ∀ negated, Alternatives.hit? { a with negated } token = none := fun _ => hhit
  refine ⟨⟨.ofToken token, unchanged_ofToken token, ?_⟩, ?_⟩ <;>
    simp only [Slot.forUnion, Strategy.accept?, Alternatives.accept?, hsame]

/-- Where an alternative holds of a token, the slot that takes them accepts it with the value of the
first that does, and the slot that refuses them does not accept it. -/
theorem accept?_of_firstGives {a : Alternatives} {token : Token} {value : Value}
    (h : a.FirstGives token value) (slot : Slot) :
    (slot.forUnion a true).strategy.accept? token = some value ∧
      (slot.forUnion a false).strategy.accept? token = none := by
  have hhit : a.hit? token = some value := hit_of_firstGives h
  have hsame : ∀ negated, Alternatives.hit? { a with negated } token = some value := fun _ => hhit
  simp only [Slot.forUnion, Strategy.accept?, Alternatives.accept?, hsame, and_self]

/-- At every cursor and for every candidate the slot that refuses alternatives and the slot that
takes them give the same if there is no candidate or it is a keyword. Of any other candidate either
no alternative holds, and the first slot keeps it as it is while the second hands it back, or the
second slot keeps the value of the first alternative that holds while the first hands it back. What
the slots give is what filling them gives wherever the candidate is read. -/
theorem negation_symmetry (a : Alternatives) (slot : Slot) (ctx : SlotContext)
    (candidate : Option Token) (c : Cursor) (values : SlotValues) :
    let refusing := slot.forUnion a false
    let taking := slot.forUnion a true
    let refused := refusing.record values (refusing.serve ctx candidate c)
    let taken := taking.record values (taking.serve ctx candidate c)
    (∀ start : Cursor, start.Offers ctx.separator candidate c →
      refusing.fillInto ctx start values = refused ∧
        taking.fillInto ctx start values = taken) ∧
    (candidate = none ∨ (∃ text ∈ ctx.keywords, candidate = some (.text text)) →
      refused = taken) ∧
    ∀ token, candidate = some token → token.IsData ctx.keywords →
      ((∀ value, ¬ a.FirstGives token value) ∧
        (∃ value, token.Unchanged value ∧ refused = ⟨c, values.insert slot.name value, none⟩) ∧
        slot.HandsBack token c values taken) ∨
      ∃ value, a.FirstGives token value ∧
        taken = ⟨c, values.insert slot.name value, none⟩ ∧
        slot.HandsBack token c values refused := by
  intro refusing taking refused taken
  refine ⟨fun start hoffers => ⟨Slot.fillInto_of_offers rfl hoffers,
    Slot.fillInto_of_offers rfl hoffers⟩, fun hwithheld => ?_, ?_⟩
  · have hnone : ctx.data? candidate = none := by
      rcases hwithheld with rfl | ⟨text, hkeyword, rfl⟩
      · rfl
      · exact ctx.data?_of_keyword (List.contains_iff_mem.mpr hkeyword)
    exact congrArg (slot.record values) (slot.serve_forUnion_of_no_data a hnone c)
  · rintro token rfl hdata
    by_cases hgives : ∃ value, a.FirstGives token value
    · obtain ⟨value, hfirst⟩ := hgives
      obtain ⟨htakes, hrefuses⟩ := accept?_of_firstGives hfirst slot
      exact .inr ⟨value, hfirst, Slot.record_of_accepted hdata htakes,
        (Slot.handsBack_of_refused hdata hrefuses).of_forUnion⟩
    · have hnone : ∀ value, ¬ a.FirstGives token value := not_exists.mp hgives
      obtain ⟨⟨value, hunchanged, hrefuses⟩, htakes⟩ := accept?_of_none hnone slot
      exact .inl ⟨hnone, ⟨value, hunchanged, Slot.record_of_accepted hdata hrefuses⟩,
        (Slot.handsBack_of_refused hdata htakes).of_forUnion⟩

/-- Of three texts the first is a flag: the slot that takes flags keeps its value while the other one
hands it back and has the default. Of the second it is the other way round, and the third is a
keyword, which makes both slots fall back. -/
theorem negation_symmetry_flag :
    let flag := (Pattern.common? "bool").get (by decide +kernel)
    let a : Alternatives := ⟨["none"], [flag], ["image"], false⟩
    let slot : Slot := ⟨"colour", .any, some (.bool false), false⟩
    let ctx : SlotContext := ⟨" ", ["--end"], 0⟩
    let segments : List Segment := [.text ["true", "red", "--end"] " "]
    let refusing := slot.forUnion a false
    let taking := slot.forUnion a true
    (∃ value, a.FirstGives (.text "true") value ∧
      taking.fillInto ctx ⟨segments, 0, 0⟩ .empty =
        ⟨⟨segments, 0, 1⟩, NameMap.empty.insert "colour" value, none⟩ ∧
      slot.HandsBack (.text "true") ⟨segments, 0, 1⟩ .empty
        (refusing.fillInto ctx ⟨segments, 0, 0⟩ .empty)) ∧
    (refusing.fillInto ctx ⟨segments, 0, 1⟩ .empty =
        ⟨⟨segments, 0, 2⟩, NameMap.empty.insert "colour" (.string "red"), none⟩ ∧
      slot.HandsBack (.text "red") ⟨segments, 0, 2⟩ .empty
        (taking.fillInto ctx ⟨segments, 0, 1⟩ .empty)) ∧
    refusing.fillInto ctx ⟨segments, 0, 2⟩ .empty =
      taking.fillInto ctx ⟨segments, 0, 2⟩ .empty := by
  intro flag a slot ctx segments refusing taking
  have htrue : Cursor.Offers " " ⟨segments, 0, 0⟩ (some (.text "true")) ⟨segments, 0, 1⟩ :=
    .token (by rfl)
  have hred : Cursor.Offers " " ⟨segments, 0, 1⟩ (some (.text "red")) ⟨segments, 0, 2⟩ :=
    .token (by rfl)
  have hend : Cursor.Offers " " ⟨segments, 0, 2⟩ (some (.text "--end")) ⟨segments, 1, 0⟩ :=
    .token (by rfl)
  have hdata : ∀ text, text ≠ "--end" → Token.IsData ctx.keywords (.text text) := by
    rintro text hne found heq hkeyword
    cases heq
    exact hne (List.mem_singleton.mp hkeyword)
  have hholds : (a.hit? (.text "true")).isSome = true := by decide +kernel
  have hnone : (a.hit? (.text "red")).isNone = true := by decide +kernel
  refine ⟨?_, ?_, ?_⟩
  · obtain ⟨hread, -, hserved⟩ :=
      negation_symmetry a slot ctx (some (.text "true")) ⟨segments, 0, 1⟩ .empty
    obtain ⟨hrefusing, htaking⟩ := hread _ htrue
    obtain ⟨hnot, -⟩ | hkept := hserved _ rfl (hdata "true" (by decide))
    · obtain ⟨value, hvalue⟩ := Option.isSome_iff_exists.mp hholds
      exact absurd (firstGives_of_hit hvalue) (hnot value)
    · rw [hrefusing, htaking]
      exact hkept
  · obtain ⟨hread, -, hserved⟩ :=
      negation_symmetry a slot ctx (some (.text "red")) ⟨segments, 0, 2⟩ .empty
    obtain ⟨hrefusing, htaking⟩ := hread _ hred
    obtain ⟨-, ⟨value, hunchanged, hkept⟩, hback⟩ | ⟨value, hfirst, -⟩ :=
      hserved _ rfl (hdata "red" (by decide))
    · cases hunchanged
      rw [hrefusing, htaking]
      exact ⟨hkept, hback⟩
    · rw [hit_of_firstGives hfirst] at hnone
      cases hnone
  · obtain ⟨hread, hsame, -⟩ :=
      negation_symmetry a slot ctx (some (.text "--end")) ⟨segments, 1, 0⟩ .empty
    obtain ⟨hrefusing, htaking⟩ := hread _ hend
    rw [hrefusing, htaking]
    exact hsame (.inr ⟨"--end", List.mem_singleton.mpr rfl, rfl⟩)

end CommandGrammar
