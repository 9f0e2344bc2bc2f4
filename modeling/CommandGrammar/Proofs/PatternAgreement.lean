import CommandGrammar.Matching.Filling
import Mathlib.Tactic.TFAE

/-!
# One pattern in different strategies

A slot takes the texts that a pattern captures, or those that it does not match; alternatives made
of the pattern alone refuse or take what it captures. A text is captured in two steps: it is
matched, and what the match finds is converted. A text that is matched and cannot be converted is
not captured, but it is not taken by the slot for what is not matched either.

`pattern_uses_agree_iff` says that the four slots agree on a text exactly when the pattern converts
what it finds in it. `overflow_refused_twice` is a number that is too large: the slot for numbers
and the slot for anything but a number both refuse it.
-/

namespace CommandGrammar

/-- Whether a pattern matches a text without a value for what it finds in it: this is not the
placeholder, and the conversion fails. -/
def Pattern.Unconverted (p : Pattern) (text : String) : Prop :=
  ∃ found, p.find? text = some found ∧ found ≠ p.source ∧ p.transform.apply found = none

/-- A text is not captured when it is not matched, or what is found in it has no value. -/
theorem capture?_eq_none_iff {p : Pattern} {text : String} :
    p.capture? text = none ↔ p.find? text = none ∨ p.Unconverted text := by
  unfold Pattern.capture? Pattern.Unconverted
  cases p.find? text with
  | none => simp
  | some found => by_cases h : found = p.source <;> simp [h]

/-- Patterns that keep what they find, or tell whether it is true, convert it always. -/
theorem converts_of_transform {p : Pattern} (h : p.transform = .direct ∨ p.transform = .bool)
    (text : String) : ¬ p.Unconverted text := by
  rintro ⟨found, -, -, hnone⟩
  rcases h with h | h <;> rw [h] at hnone <;> cases hnone

/-! ### Required slots -/

/-- Whether a required slot of the strategy takes the token that is next. -/
def Strategy.Accepts (s : Strategy) (name : String) (ctx : SlotContext) (c : Cursor) : Prop :=
  ∃ value, ((Slot.ofStrategy name s).fill ctx c).2 = .filled value

/-- Whether a required slot of the strategy fails because the token that is next does not match. -/
def Strategy.Rejects (s : Strategy) (name : String) (ctx : SlotContext) (c : Cursor) : Prop :=
  ∃ found, ((Slot.ofStrategy name s).fill ctx c).2 = .failed (.unmatched name found)

section Required

variable {s : Strategy} {ctx : SlotContext} {c next : Cursor} {text : String}

/-- A required slot for one token is filled with the value that its strategy gives to a text that is
no keyword, or fails. -/
theorem fill_required (hsingle : s.isVariadic = false) (name : String)
    (hfetch : c.fetch ctx.separator = some (.text text, next)) (hdata : text ∉ ctx.keywords) :
    ((Slot.ofStrategy name s).fill ctx c).2 =
      match s.accept? (.text text) with
      | some value => .filled value
      | none => .failed (.unmatched name text) := by
  have hkeyword : ¬ ctx.isKeyword (.text text) = true := by
    simpa [SlotContext.isKeyword, Token.asText?] using hdata
  have hfill : (Slot.ofStrategy name s).fill ctx c =
      (Slot.ofStrategy name s).fillOne ctx c := Slot.fill_single hsingle ctx c
  rw [hfill, Slot.fillOne_cases, hfetch]
  dsimp only [Slot.ofStrategy]
  rw [if_neg hkeyword]
  cases s.accept? (.text text) <;> rfl

/-- A required slot takes the texts that its strategy gives a value to. -/
theorem accepts_iff (hsingle : s.isVariadic = false) (name : String)
    (hfetch : c.fetch ctx.separator = some (.text text, next)) (hdata : text ∉ ctx.keywords) :
    s.Accepts name ctx c ↔ s.accept? (.text text) ≠ none := by
  rw [Strategy.Accepts, fill_required hsingle name hfetch hdata]
  cases s.accept? (.text text) <;> simp

/-- A required slot rejects the texts that its strategy gives no value to. -/
theorem rejects_iff (hsingle : s.isVariadic = false) (name : String)
    (hfetch : c.fetch ctx.separator = some (.text text, next)) (hdata : text ∉ ctx.keywords) :
    s.Rejects name ctx c ↔ s.accept? (.text text) = none := by
  rw [Strategy.Rejects, fill_required hsingle name hfetch hdata]
  cases s.accept? (.text text) <;> simp

end Required

/-! ### Four uses of a pattern -/

/-- The alternatives made of one pattern alone. -/
def Pattern.alone (p : Pattern) (negated : Bool) : Alternatives := ⟨[], [p], [], negated⟩

/-- A pattern gives the value that it captures. -/
theorem accept?_pattern (p : Pattern) (text : String) :
    (Strategy.pattern p).accept? (.text text) = p.capture? text := rfl

/-- What is not to match gives no value to a text that is matched. -/
theorem accept?_negated_eq_none_iff {p : Pattern} {text : String} :
    (Strategy.negated p).accept? (.text text) = none ↔ p.find? text ≠ none := by
  cases hfind : p.find? text <;> simp [Strategy.accept?, Token.asText?, hfind]

/-- The alternatives made of a pattern hold of the texts that it captures. -/
theorem hit?_alone (p : Pattern) (negated : Bool) (text : String) :
    (p.alone negated).hit? (.text text) = p.capture? text := by
  cases hcapture : p.capture? text <;>
    simp [Alternatives.hit?, Alternatives.hitText?, Pattern.alone, Token.asText?, hcapture]

/-- Refused alternatives give no value to a text that the pattern captures. -/
theorem accept?_refused_eq_none_iff {p : Pattern} {text : String} :
    (Strategy.union (p.alone false)).accept? (.text text) = none ↔ p.capture? text ≠ none := by
  rw [Strategy.accept?, Alternatives.accept?, hit?_alone]
  cases p.capture? text <;> simp [Pattern.alone]

/-- Taken alternatives give the value that the pattern captures. -/
theorem accept?_taken (p : Pattern) (text : String) :
    (Strategy.union (p.alone true)).accept? (.text text) = p.capture? text := by
  rw [Strategy.accept?, Alternatives.accept?, hit?_alone]
  cases p.capture? text <;> rfl

/-- On a text that is no keyword a slot for a pattern, one for what it does not match, and slots for
the pattern as the only alternative that is refused or taken agree exactly when the pattern converts
what it finds there. All but the slot for what the pattern does not match agree anyway, and that one
rejects, as the slot for the pattern does, where nothing is converted. This does not happen to a
pattern that keeps what it finds, or tells whether it is true. -/
theorem pattern_uses_agree_iff (p : Pattern) (name : String) {ctx : SlotContext} {c next : Cursor}
    {text : String} (hfetch : c.fetch ctx.separator = some (.text text, next))
    (hdata : text ∉ ctx.keywords) :
    ([(Strategy.pattern p).Rejects name ctx c, (Strategy.negated p).Accepts name ctx c,
      (Strategy.union (p.alone false)).Accepts name ctx c,
      (Strategy.union (p.alone true)).Rejects name ctx c].TFAE ↔ ¬ p.Unconverted text) ∧
    [(Strategy.pattern p).Rejects name ctx c, (Strategy.union (p.alone false)).Accepts name ctx c,
      (Strategy.union (p.alone true)).Rejects name ctx c].TFAE ∧
    (p.Unconverted text →
      (Strategy.pattern p).Rejects name ctx c ∧ (Strategy.negated p).Rejects name ctx c) ∧
    (p.transform = .direct ∨ p.transform = .bool → ¬ p.Unconverted text) := by
  have hplain : (Strategy.pattern p).Rejects name ctx c ↔ p.capture? text = none := by
    rw [rejects_iff rfl name hfetch hdata, accept?_pattern]
  have hexcept : (Strategy.negated p).Accepts name ctx c ↔ p.find? text = none := by
    rw [accepts_iff rfl name hfetch hdata, ne_eq, accept?_negated_eq_none_iff, Classical.not_not]
  have hrefused : (Strategy.union (p.alone false)).Accepts name ctx c ↔ p.capture? text = none := by
    rw [accepts_iff rfl name hfetch hdata, ne_eq, accept?_refused_eq_none_iff, Classical.not_not]
  have htaken : (Strategy.union (p.alone true)).Rejects name ctx c ↔ p.capture? text = none := by
    rw [rejects_iff rfl name hfetch hdata, accept?_taken]
  have hfound : p.Unconverted text → p.find? text ≠ none := by
    rintro ⟨found, hfind, -⟩ hnone
    cases hnone.symm.trans hfind
  rw [hplain, hexcept, hrefused, htaken, rejects_iff rfl name hfetch hdata,
    accept?_negated_eq_none_iff]
  refine ⟨⟨fun hagree hunconverted => ?_, fun hconverts => ?_⟩, ?_, fun hunconverted => ?_,
    fun htransform => converts_of_transform htransform text⟩
  · have hnone := (hagree.out 0 1).mp (capture?_eq_none_iff.mpr (.inr hunconverted))
    exact hfound hunconverted hnone
  · have hsame : p.capture? text = none ↔ p.find? text = none := by
      rw [capture?_eq_none_iff, or_iff_left hconverts]
    rw [hsame]
    tfae_finish
  · tfae_finish
  · exact ⟨capture?_eq_none_iff.mpr (.inr hunconverted), hfound hunconverted⟩

/-- The slots for hexadecimal numbers agree on a number with letters: what is found in it stands
behind the sign of the base, and is converted. -/
theorem pattern_uses_agree_hex :
    let p := (Pattern.common? "hex").get (by decide +kernel)
    let c : Cursor := ⟨[.text ["go", "0xfF"] " "], 0, 1⟩
    c.fetch " " = some (.text "0xfF", ⟨c.segments, 1, 0⟩) ∧ "0xfF" ∉ ["--base"] ∧
      [(Strategy.pattern p).Rejects "n" ⟨" ", ["--base"], 0⟩ c,
        (Strategy.negated p).Accepts "n" ⟨" ", ["--base"], 0⟩ c,
        (Strategy.union (p.alone false)).Accepts "n" ⟨" ", ["--base"], 0⟩ c,
        (Strategy.union (p.alone true)).Rejects "n" ⟨" ", ["--base"], 0⟩ c].TFAE := by
  intro p c
  have hfetch : c.fetch " " = some (.text "0xfF", ⟨c.segments, 1, 0⟩) := by rfl
  have hdata : "0xfF" ∉ ["--base"] := by decide
  have hconverts : ¬ p.Unconverted "0xfF" := by
    have hcapture : (p.capture? "0xfF").isSome = true := by decide +kernel
    intro h
    rw [capture?_eq_none_iff.mpr (.inr h)] at hcapture
    cases hcapture
  exact ⟨hfetch, hdata, (pattern_uses_agree_iff p "n" hfetch hdata).1.mpr hconverts⟩

/-- A number that is too large is rejected by the slot for numbers, and by the slot for anything but
a number, while it passes where numbers are refused. -/
theorem overflow_refused_twice :
    let c : Cursor := ⟨[.text ["go", "99999999999999999999999"] " "], 0, 1⟩
    let ctx : SlotContext := ⟨" ", [], 0⟩
    ∃ p next, Pattern.common? "int" = some p ∧
      c.fetch " " = some (.text "99999999999999999999999", next) ∧
      (Strategy.pattern p).Rejects "n" ctx c ∧ ¬ (Strategy.negated p).Accepts "n" ctx c ∧
      (Strategy.union (p.alone false)).Accepts "n" ctx c ∧
      (Strategy.union (p.alone true)).Rejects "n" ctx c := by
  intro c ctx
  have hfetch : c.fetch ctx.separator =
      some (.text "99999999999999999999999", ⟨c.segments, 1, 0⟩) := by rfl
  have hdata : "99999999999999999999999" ∉ ctx.keywords := List.not_mem_nil
  have hsome : ((Pattern.common? "int").any fun p =>
      (p.find? "99999999999999999999999").isSome &&
        (p.capture? "99999999999999999999999").isNone) = true := by decide +kernel
  obtain ⟨p, hp, hboth⟩ := (Option.any_eq_true _ _).mp hsome
  rw [Bool.and_eq_true] at hboth
  have hfind : p.find? "99999999999999999999999" ≠ none := Option.isSome_iff_ne_none.mp hboth.1
  have hcapture : p.capture? "99999999999999999999999" = none :=
    Option.isNone_iff_eq_none.mp hboth.2
  refine ⟨p, _, hp, hfetch, ?_, fun h => ?_, ?_, ?_⟩
  · exact (rejects_iff rfl "n" hfetch hdata).mpr ((accept?_pattern _ _).trans hcapture)
  · exact (accepts_iff rfl "n" hfetch hdata).mp h (accept?_negated_eq_none_iff.mpr hfind)
  · refine (accepts_iff rfl "n" hfetch hdata).mpr fun hnone => ?_
    exact accept?_refused_eq_none_iff.mp hnone hcapture
  · exact (rejects_iff rfl "n" hfetch hdata).mpr ((accept?_taken _ _).trans hcapture)

end CommandGrammar
