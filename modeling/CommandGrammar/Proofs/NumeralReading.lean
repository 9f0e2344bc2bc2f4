import CommandGrammar.Numeral.Reading
import Mathlib.Data.List.Induction
import Mathlib.Data.Nat.Digits.Defs

/-!
# Numerals and the numbers that they stand for

A numeral is a digit, or a numeral with one more digit behind it; letters are digits in either case.
`Numeral` says which natural such a row of digits stands for. In no base above sixteen, a natural is
read from a row of digits exactly when the digits stand for it, and the digits of a natural stand
for it themselves.

`DecimalInteger` adds the sign. Integers are read as what they stand for as long as sixty-four bits
hold them, and not at all beyond that.
-/

namespace CommandGrammar

/-- Whether a row of digits stands for a natural; letters are digits in either case. -/
inductive Numeral (base : Nat) : List Char → Nat → Prop
  /-- A digit alone. -/
  | digit {c : Char} {d : Nat} (below : d < base) (written : c.toLower = Nat.digitChar d) :
      Numeral base [c] d
  /-- One more digit behind others. -/
  | append {front : List Char} {n : Nat} {c : Char} {d : Nat} (first : Numeral base front n)
      (below : d < base) (written : c.toLower = Nat.digitChar d) :
      Numeral base (front ++ [c]) (n * base + d)

/-! ### Digits -/

/-- The values of the ASCII characters as hexadecimal digits. -/
theorem digitValue_ascii : ∀ point < 128, ∀ d < 16,
    (digitValue? 16 (Char.ofNat point) = some d ↔
      (Char.ofNat point).toLower = Nat.digitChar d) := by
  decide +kernel

/-- The digits are ASCII characters. -/
theorem toNat_digitChar_lt : ∀ d < 16, (Nat.digitChar d).toNat < 128 := by
  decide

/-- A character that is not an ASCII one is no letter whose case can change. -/
theorem toLower_of_not_ascii {c : Char} (h : ¬ c.toNat < 128) : c.toLower = c := by
  have hupper : ¬ (c.val ≥ 'A'.val ∧ c.val ≤ 'Z'.val) := fun hcase =>
    h (Nat.lt_of_le_of_lt (UInt32.le_iff_toNat_le.mp hcase.2) (by decide))
  exact dif_neg hupper

/-- A character that is not an ASCII one has no value as a digit. -/
theorem digitValue_of_not_ascii {c : Char} (h : ¬ c.toNat < 128) : digitValue? 16 c = none := by
  have hlast : ∀ last : Char, last.toNat < 128 → ¬ c ≤ last := fun last hascii hle =>
    h (Nat.lt_of_le_of_lt (UInt32.le_iff_toNat_le.mp hle) hascii)
  simp [digitValue?, hlast '9' (by decide), hlast 'z' (by decide), hlast 'Z' (by decide)]

/-- The value of a character as a digit does not depend on the base, but has to be below it. -/
theorem digitValue_base {base : Nat} (hbase : base ≤ 16) {c : Char} {d : Nat} :
    digitValue? base c = some d ↔ d < base ∧ digitValue? 16 c = some d := by
  unfold digitValue?
  dsimp only
  split_ifs <;> simp_all <;> omega

/-- What is a digit in lower case is an ASCII character. -/
theorem ascii_of_written {c : Char} {d : Nat} (hd : d < 16)
    (hwritten : c.toLower = Nat.digitChar d) : c.toNat < 128 := by
  by_contra hascii
  rw [toLower_of_not_ascii hascii] at hwritten
  exact hascii (hwritten ▸ toNat_digitChar_lt d hd)

/-- The value of a character as a digit is that of the digit it is written as in lower case. -/
theorem digitValue_eq_some_iff {base : Nat} (hbase : base ≤ 16) {c : Char} {d : Nat} :
    digitValue? base c = some d ↔ d < base ∧ c.toLower = Nat.digitChar d := by
  rw [digitValue_base hbase]
  refine and_congr_right fun hd => ?_
  have hsmall : d < 16 := Nat.lt_of_lt_of_le hd hbase
  by_cases hascii : c.toNat < 128
  · have hchar := digitValue_ascii c.toNat hascii d hsmall
    rwa [Char.ofNat_toNat] at hchar
  · rw [digitValue_of_not_ascii hascii]
    exact iff_of_false (by simp) fun hwritten => hascii (ascii_of_written hsmall hwritten)

/-! ### Naturals -/

/-- Digits in two parts are read one part after the other. -/
theorem readDigits_append (base value : Nat) (front back : List Char) :
    readDigits base value (front ++ back) =
      (readDigits base value front).bind fun n => readDigits base n back := by
  induction front generalizing value with
  | nil => rfl
  | cons c rest ih =>
    rw [List.cons_append, readDigits, readDigits]
    cases digitValue? base c with
    | none => rfl
    | some d => exact ih _

/-- One more digit is read behind the others. -/
theorem readDigits_last {base value n : Nat} {front : List Char} {c : Char} :
    readDigits base value (front ++ [c]) = some n ↔
      ∃ m d, readDigits base value front = some m ∧ digitValue? base c = some d ∧
        m * base + d = n := by
  rw [readDigits_append]
  cases readDigits base value front with
  | none => simp
  | some m =>
    simp only [Option.bind_some, readDigits]
    cases digitValue? base c with
    | none => simp
    | some d => simp

/-- A natural is read from the digits that stand for it, and from no others. -/
theorem readNat_eq_some_iff {base : Nat} (hbase : base ≤ 16) {cs : List Char} {n : Nat} :
    readNat? base cs = some n ↔ Numeral base cs n := by
  constructor
  · induction cs using List.reverseRecOn generalizing n with
    | nil => rintro ⟨⟩
    | append_singleton front c ih =>
      intro h
      have hread : readDigits base 0 (front ++ [c]) = some n := by
        cases front <;> exact h
      obtain ⟨m, d, hfront, hd, rfl⟩ := readDigits_last.mp hread
      obtain ⟨hbelow, hwritten⟩ := (digitValue_eq_some_iff hbase).mp hd
      cases front with
      | nil =>
        obtain rfl : m = 0 := by simpa [readDigits] using hfront.symm
        rw [Nat.zero_mul, Nat.zero_add]
        exact .digit hbelow hwritten
      | cons first rest => exact .append (ih hfront) hbelow hwritten
  · intro h
    have hread : readDigits base 0 cs = some n := by
      induction h with
      | digit below written =>
        rw [readDigits, (digitValue_eq_some_iff hbase).mpr ⟨below, written⟩]
        simp [readDigits]
      | append _ below written ih =>
        exact readDigits_last.mpr
          ⟨_, _, ih, (digitValue_eq_some_iff hbase).mpr ⟨below, written⟩, rfl⟩
    cases h with
    | digit => exact hread
    | append first =>
      rename_i front _ _ _ _ _
      cases front <;> exact hread

/-- A row of digits stands for one natural at most. -/
theorem Numeral.unique {base m n : Nat} (hbase : base ≤ 16) {cs : List Char}
    (hm : Numeral base cs m) (hn : Numeral base cs n) : m = n :=
  Option.some.inj (((readNat_eq_some_iff hbase).mpr hm).symm.trans
    ((readNat_eq_some_iff hbase).mpr hn))

/-- A numeral has a digit. -/
theorem Numeral.ne_nil {base n : Nat} {cs : List Char} (h : Numeral base cs n) : cs ≠ [] := by
  cases h with
  | digit => exact List.cons_ne_nil _ _
  | append => exact List.append_ne_nil_of_right_ne_nil _ (List.cons_ne_nil _ _)

/-- All characters of a numeral are digits. -/
theorem Numeral.digits {base n : Nat} {cs : List Char} (h : Numeral base cs n) :
    ∀ c ∈ cs, ∃ d < base, c.toLower = Nat.digitChar d := by
  induction h with
  | digit below written =>
    intro c hc
    rw [List.mem_singleton.mp hc]
    exact ⟨_, below, written⟩
  | append _ below written ih =>
    intro c hc
    rcases List.mem_append.mp hc with hc | hc
    · exact ih c hc
    · rw [List.mem_singleton.mp hc]
      exact ⟨_, below, written⟩

/-- The digits of a natural stand for it, also where letters among them are written in upper
case. -/
theorem numeral_toDigits {base n : Nat} (hbase : 1 < base) {digits : List Char}
    (h : digits.map Char.toLower = Nat.toDigits base n) : Numeral base digits n := by
  induction n using Nat.strongRecOn generalizing digits with
  | _ n ih =>
    rw [Nat.toDigits_eq_if hbase] at h
    split at h
    · rename_i hlt
      obtain ⟨c, rfl, hc⟩ := List.map_eq_singleton_iff.mp h
      exact .digit hlt hc
    · rename_i hle
      obtain ⟨front, back, rfl, hfront, hback⟩ := List.map_eq_append_iff.mp h
      obtain ⟨c, rfl, hc⟩ := List.map_eq_singleton_iff.mp hback
      have hsmaller : n / base < n := Nat.div_lt_self (by omega) hbase
      have hnumeral := Numeral.append (ih _ hsmaller hfront) (Nat.mod_lt n (by omega)) hc
      rwa [Nat.div_add_mod'] at hnumeral

/-- Digits in lower case are written in lower case. -/
theorem toLower_digitChar : ∀ d < 16, (Nat.digitChar d).toLower = Nat.digitChar d := by
  decide

/-- The digits of a natural are written in lower case. -/
theorem map_toLower_toDigits {base : Nat} (hbase : 1 < base) (hsmall : base ≤ 16) (n : Nat) :
    (Nat.toDigits base n).map Char.toLower = Nat.toDigits base n := by
  induction n using Nat.strongRecOn with
  | _ n ih =>
    rw [Nat.toDigits_eq_if hbase]
    split
    · rw [List.map_singleton, toLower_digitChar n (by omega)]
    · have hlast : n % base < 16 := Nat.lt_of_lt_of_le (Nat.mod_lt n (by omega)) hsmall
      rw [List.map_append, ih _ (Nat.div_lt_self (by omega) hbase), List.map_singleton,
        toLower_digitChar _ hlast]

/-! ### Integers -/

/-- Whether a text stands for an integer in base ten: digits, with a hyphen in front of them for
the opposite. -/
inductive DecimalInteger : List Char → Int → Prop
  /-- Digits alone. -/
  | plain {digits : List Char} {n : Nat} (numeral : Numeral 10 digits n) : DecimalInteger digits n
  /-- Digits behind a hyphen. -/
  | minus {digits : List Char} {n : Nat} (numeral : Numeral 10 digits n) :
      DecimalInteger ('-' :: digits) (-n)

/-- An integer in its usual form stands for itself. -/
theorem decimalInteger_toString (n : Int) : DecimalInteger (toString n).toList n := by
  have hdigits : ∀ m : Nat, Numeral 10 (Nat.repr m).toList m := fun m => by
    rw [Nat.repr_eq_ofList_toDigits, String.toList_ofList]
    exact numeral_toDigits (by decide) (map_toLower_toDigits (by decide) (by decide) m)
  cases n with
  | ofNat m => exact .plain (hdigits m)
  | negSucc m =>
    have hwritten : (toString (Int.negSucc m)).toList = '-' :: (Nat.repr (m + 1)).toList := by
      rw [Int.toString_eq_repr]
      exact String.toList_append
    rw [hwritten]
    exact .minus (hdigits (m + 1))

/-- A text without signs has none in front. -/
theorem takeSign_eq {cs : List Char} (h : ∀ c ∈ cs, c ≠ '-' ∧ c ≠ '+') :
    takeSign cs = (false, cs) := by
  unfold takeSign
  split
  · exact absurd rfl (h '-' List.mem_cons_self).1
  · exact absurd rfl (h '+' List.mem_cons_self).2
  · rfl

/-- Digits are no signs. -/
theorem Numeral.not_sign {base n : Nat} (hbase : base ≤ 16) {cs : List Char}
    (h : Numeral base cs n) : ∀ c ∈ cs, c ≠ '-' ∧ c ≠ '+' := by
  intro c hc
  obtain ⟨d, hd, hwritten⟩ := h.digits c hc
  have hvalue := (digitValue_base hbase).mp ((digitValue_eq_some_iff hbase).mpr ⟨hd, hwritten⟩)
  refine ⟨?_, ?_⟩
  · rintro rfl
    cases hvalue.2
  · rintro rfl
    cases hvalue.2

/-- A text stands for one integer at most. -/
theorem DecimalInteger.unique {cs : List Char} {m n : Int} (hm : DecimalInteger cs m)
    (hn : DecimalInteger cs n) : m = n := by
  have hsign : ∀ {digits : List Char} {k : Nat}, ¬ Numeral 10 ('-' :: digits) k :=
    fun h => (h.not_sign (by decide) '-' List.mem_cons_self).1 rfl
  cases hm with
  | plain hm =>
    cases hn with
    | plain hn => rw [hm.unique (by decide) hn]
    | minus hn => exact absurd hm hsign
  | minus hm =>
    cases hn with
    | plain hn => exact absurd hn hsign
    | minus hn => rw [hm.unique (by decide) hn]

/-- An integer that is read from the text behind its sign is kept if sixty-four bits hold it. -/
theorem readInt64_eq_some_iff {base : Nat} (hbase : base ≤ 16) {cs digits : List Char}
    {negative : Bool} (hsign : takeSign cs = (negative, digits)) {m : Int} :
    readInt64? base cs = some m ↔ ∃ n : Nat, Numeral base digits n ∧
      m = (if negative then -(n : Int) else n) ∧ fitsInt64 m = true := by
  simp only [readInt64?, hsign, ← readNat_eq_some_iff hbase]
  cases readNat? base digits with
  | none => simp
  | some n =>
    simp only [Option.ite_none_right_eq_some, Option.some.injEq, exists_eq_left']
    constructor
    · rintro ⟨hfits, rfl⟩
      exact ⟨rfl, hfits⟩
    · rintro ⟨rfl, hfits⟩
      exact ⟨hfits, rfl⟩

end CommandGrammar
