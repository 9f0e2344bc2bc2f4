import CommandGrammar.Proofs.NumeralReading
import CommandGrammar.Proofs.QuotedExpressions
import CommandGrammar.Slot.Pattern

/-!
# What the patterns for integers capture

Two of the common patterns are for integers, one in base ten and one in base sixteen. Each captures
what stands for an integer that sixty-four bits hold, as this integer, and nothing else. Digits of
other scripts and numerals of any length are found but not converted, so the limits are those of the
conversion.

What an expression finds in a text is followed through its parts: sets of characters, repetitions of
one, and the group that holds the digits behind the sign of the base.
-/

namespace CommandGrammar

/-! ### Threads in a text -/

/-- A word is stepped over character by character, and groups under way stay open. -/
theorem Thread.readWord_moves {word : List Char} {s t : Thread} (h : s.readWord word = some t) :
    t.position = s.position + word.length ∧ t.opened = s.opened := by
  induction word generalizing s with
  | nil =>
    cases h
    exact ⟨rfl, rfl⟩
  | cons c word ih =>
    obtain ⟨u, hstep, hrest⟩ := Option.bind_eq_some_iff.mp h
    obtain ⟨hposition, hopened⟩ := ih hrest
    obtain ⟨d, rest, -, -, rfl⟩ := step_eq_some_iff.mp hstep
    refine ⟨?_, hopened⟩
    rw [hposition, List.length_cons]
    dsimp only
    omega

/-- A group around a word is kept from where it began to where the word ends. -/
theorem Thread.closeGroup_readWord {word : List Char} {s t : Thread}
    (h : s.openGroup.readWord word = some t) (index : Nat) :
    t.closeGroup index =
        { t with opened := s.opened, groups := ⟨index, s.position, t.position⟩ :: s.groups } ∧
      s.ahead = word ++ t.ahead ∧ t.position = s.position + word.length := by
  obtain ⟨hahead, hgroups⟩ := readWord_eq_some h
  obtain ⟨hposition, hopened⟩ := readWord_moves h
  refine ⟨?_, hahead, hposition⟩
  rw [closeGroup, hopened, hgroups]
  rfl

namespace Regex

/-! ### Sets of characters in expressions -/

/-- One character of a set spells the texts of one such character. -/
theorem spells_one (chars : CharSet) :
    (one chars).Spells fun word => ∃ c, word = [c] ∧ chars.contains c = true := by
  intro s t
  have hword : ∀ c, s.readWord [c] = s.step? (.single c) := fun c => Option.bind_fun_some _
  simp only [Runs, Thread.step_eq_some_iff]
  constructor
  · rintro ⟨c, rest, hahead, hcontains, rfl⟩
    refine ⟨[c], ⟨c, rfl, hcontains⟩, ?_⟩
    rw [hword, Thread.step_eq_some_iff]
    exact ⟨c, rest, hahead, by simp [CharSet.contains_single], rfl⟩
  · rintro ⟨_, ⟨c, rfl, hcontains⟩, hread⟩
    rw [hword, Thread.step_eq_some_iff] at hread
    obtain ⟨d, rest, hahead, hsame, rfl⟩ := hread
    obtain rfl : d = c := by simpa [CharSet.contains_single] using hsame
    exact ⟨d, rest, hahead, hcontains, rfl⟩

/-- A set of characters repeated spells the texts of such characters, of the length that there are
repetitions. -/
theorem repeated_one (chars : CharSet) (n : Nat) (s t : Thread) :
    Repeated (one chars).Runs n s t ↔
      ∃ word, (word.length = n ∧ ∀ c ∈ word, chars.contains c = true) ∧
        s.readWord word = some t := by
  induction n generalizing s with
  | zero =>
    constructor
    · rintro rfl
      exact ⟨[], ⟨rfl, by simp⟩, rfl⟩
    · rintro ⟨word, ⟨hlength, -⟩, hread⟩
      cases List.eq_nil_of_length_eq_zero hlength
      cases hread
      rfl
  | succ n ih =>
    simp only [Repeated, spells_one chars s, ih]
    constructor
    · rintro ⟨u, ⟨_, ⟨c, rfl, hc⟩, hu⟩, word, ⟨rfl, hword⟩, ht⟩
      refine ⟨c :: word, ⟨rfl, List.forall_mem_cons.mpr ⟨hc, hword⟩⟩, ?_⟩
      rw [← List.singleton_append, Thread.readWord_append, hu]
      exact ht
    · rintro ⟨word, ⟨hlength, hword⟩, ht⟩
      obtain ⟨c, rest, rfl⟩ := List.exists_cons_of_length_eq_add_one hlength
      obtain ⟨hc, hrest⟩ := List.forall_mem_cons.mp hword
      rw [← List.singleton_append, Thread.readWord_append] at ht
      obtain ⟨u, hu, ht⟩ := Option.bind_eq_some_iff.mp ht
      exact ⟨u, ⟨[c], ⟨c, rfl, hc⟩, hu⟩, rest, ⟨Nat.succ.inj hlength, hrest⟩, ht⟩

/-- Whether a text has characters, all of a set. -/
def RowOf (chars : CharSet) (word : List Char) : Prop :=
  word ≠ [] ∧ ∀ c ∈ word, chars.contains c = true

/-- A set of characters repeated at least once spells the rows of such characters. -/
theorem spells_row (chars : CharSet) (greedy : Bool) :
    (times (one chars) 1 none greedy).Spells (RowOf chars) := by
  intro s t
  change (∃ n, 1 ≤ n ∧ (∀ m ∈ none, n ≤ max 1 m) ∧ Repeated (one chars).Runs n s t) ↔ _
  simp only [repeated_one]
  constructor
  · rintro ⟨n, hn, -, word, ⟨rfl, hword⟩, hread⟩
    exact ⟨word, ⟨List.ne_nil_of_length_pos hn, hword⟩, hread⟩
  · rintro ⟨word, ⟨hne, hword⟩, hread⟩
    exact ⟨word.length, List.length_pos_of_ne_nil hne, by simp, word, ⟨rfl, hword⟩, hread⟩

/-! ### Searches between anchors -/

/-- A match of a whole text begins at its start and ends where nothing is ahead. -/
theorem search_anchored {middle : Regex} {text : List Char} {m : RegexMatch}
    (h : (Program.ofRegex middle.anchored).search text = some m) :
    ∃ t, middle.Runs (.startAt text 0) t ∧ t.ahead = [] ∧ m = ⟨0, t.position, t.groups⟩ := by
  obtain ⟨hle, ⟨t, hsucceeds, hstop, hgroups⟩, -⟩ := Program.search_eq_some h
  obtain ⟨hbefore, hend, hrun⟩ :=
    (runs_anchored middle _ t).mp ((Program.succeeds_ofRegex _ _ t).mp hsucceeds)
  have hstart : m.start = 0 := Thread.startAt_first hle hbefore
  rw [hstart] at hrun
  obtain ⟨start, stop, groups⟩ := m
  cases hstart
  cases hstop
  cases hgroups
  exact ⟨t, hrun, hend, rfl⟩

/-- A whole text that an expression leads through is found. -/
theorem search_anchored_isSome {middle : Regex} {text : List Char} {t : Thread}
    (hrun : middle.Runs (.startAt text 0) t) (hend : t.ahead = []) :
    ((Program.ofRegex middle.anchored).search text).isSome := by
  rw [search_ofRegex_isSome_iff]
  exact ⟨0, Nat.zero_le _, t, (runs_anchored middle _ t).mpr ⟨rfl, hend, hrun⟩⟩

/-- An expression behind some characters, its text kept as the first group. -/
def behind (front : List Char) (body : Regex) : Regex :=
  front.foldr (fun c rest => .seq (.one (.single c)) rest) (.group 1 body)

/-- What stands in front is stepped over before the group begins. -/
theorem runs_behind (front : List Char) (body : Regex) (s t : Thread) :
    (body.behind front).Runs s t ↔
      ∃ u, s.readWord front = some u ∧ ∃ v, body.Runs u.openGroup v ∧ t = v.closeGroup 1 := by
  induction front generalizing s with
  | nil => simp [behind, Runs, Thread.readWord]
  | cons c front ih =>
    have hrest : ∀ u, (body.behind front).Runs u t ↔ _ := ih
    simp only [behind, List.foldr_cons, Runs] at hrest ⊢
    simp only [hrest, Thread.readWord, Option.bind_eq_some_iff]
    constructor
    · rintro ⟨u, hu, v, hv, hlast⟩
      exact ⟨v, ⟨u, hu, hv⟩, hlast⟩
    · rintro ⟨v, ⟨u, hu, hv⟩, hlast⟩
      exact ⟨u, hu, v, hv, hlast⟩

/-- A text is matched by an expression that spells words if it is one, and no group is kept. -/
theorem search_spells_iff {middle : Regex} {words : List Char → Prop} (h : middle.Spells words)
    {text : List Char} {m : RegexMatch} :
    (Program.ofRegex middle.anchored).search text = some m ↔
      words text ∧ m = ⟨0, text.length, []⟩ := by
  have honly : ∀ m, (Program.ofRegex middle.anchored).search text = some m →
      words text ∧ m = ⟨0, text.length, []⟩ := by
    intro m hm
    obtain ⟨t, hrun, hend, rfl⟩ := search_anchored hm
    obtain ⟨word, hword, hread⟩ := (h _ t).mp hrun
    obtain ⟨hahead, hgroups⟩ := Thread.readWord_eq_some hread
    obtain ⟨hposition, -⟩ := Thread.readWord_moves hread
    obtain rfl : text = word := by simpa [Thread.startAt, Thread.start, hend] using hahead
    rw [hposition, hgroups]
    exact ⟨hword, by simp [Thread.startAt, Thread.start]⟩
  refine ⟨honly m, ?_⟩
  rintro ⟨hword, rfl⟩
  obtain ⟨t, hread, hend⟩ := @Thread.exists_readWord text [] (.startAt text 0)
    (by simp [Thread.startAt, Thread.start])
  obtain ⟨m, hm⟩ := Option.isSome_iff_exists.mp
    (search_anchored_isSome ((h _ t).mpr ⟨_, hword, hread⟩) hend)
  rw [hm, (honly m hm).2]

/-- A text is matched by an expression that spells words behind some characters if it has a word
behind them, and the group is this word. -/
theorem search_behind_iff {front : List Char} {body : Regex} {words : List Char → Prop}
    (h : body.Spells words) {text : List Char} {m : RegexMatch} :
    (Program.ofRegex (body.behind front).anchored).search text = some m ↔
      ∃ word, words word ∧ text = front ++ word ∧
        m = ⟨0, text.length, [⟨1, front.length, text.length⟩]⟩ := by
  have honly : ∀ m, (Program.ofRegex (body.behind front).anchored).search text = some m →
      ∃ word, words word ∧ text = front ++ word ∧
        m = ⟨0, text.length, [⟨1, front.length, text.length⟩]⟩ := by
    intro m hm
    obtain ⟨t, hrun, hend, rfl⟩ := search_anchored hm
    obtain ⟨u, hfront, v, hgroup, rfl⟩ := (runs_behind front body _ t).mp hrun
    obtain ⟨word, hword, hread⟩ := (h _ v).mp hgroup
    obtain ⟨hlead, hnone⟩ := Thread.readWord_eq_some hfront
    obtain ⟨hbegin, -⟩ := Thread.readWord_moves hfront
    obtain ⟨hclosed, hahead, hposition⟩ := Thread.closeGroup_readWord hread 1
    rw [hclosed] at hend ⊢
    have hrest : u.ahead = word := by rw [hahead, show v.ahead = [] from hend, List.append_nil]
    obtain rfl : text = front ++ word := by
      simpa [Thread.startAt, Thread.start, hrest] using hlead
    rw [Thread.startAt, Thread.start, Nat.zero_add] at hbegin
    dsimp only
    rw [hposition, hnone, hbegin, List.length_append]
    exact ⟨word, hword, rfl, rfl⟩
  refine ⟨honly m, ?_⟩
  rintro ⟨word, hword, rfl, rfl⟩
  obtain ⟨u, hfront, hahead⟩ := @Thread.exists_readWord front word (.startAt (front ++ word) 0)
    (by simp [Thread.startAt, Thread.start])
  obtain ⟨v, hread, hend⟩ := @Thread.exists_readWord word [] u.openGroup
    (by simp [Thread.openGroup, hahead])
  obtain ⟨hclosed, -, -⟩ := Thread.closeGroup_readWord hread 1
  obtain ⟨m, hm⟩ := Option.isSome_iff_exists.mp
    (search_anchored_isSome ((runs_behind front body _ _).mpr
      ⟨u, hfront, v, (h _ v).mpr ⟨_, hword, hread⟩, rfl⟩) (by rw [hclosed]; exact hend))
  obtain ⟨-, -, -, hsame⟩ := honly m hm
  rw [hm, hsame]

end Regex

/-! ### What patterns find -/

namespace Pattern

/-- A pattern whose expression spells words finds these, as whole texts. -/
theorem find_eq_some_iff {p : Pattern} {middle : Regex} (hp : p.program = .ofRegex middle.anchored)
    {words : List Char → Prop} (hmiddle : middle.Spells words) {text found : String} :
    p.find? text = some found ↔ words text.toList ∧ found = text := by
  have hwhole : sliceText text.toList 0 text.toList.length = text := by simp [sliceText]
  simp only [find?, hp, Option.map_eq_some_iff, Regex.search_spells_iff hmiddle]
  constructor
  · rintro ⟨_, ⟨hword, rfl⟩, rfl⟩
    exact ⟨hword, hwhole⟩
  · rintro ⟨hword, rfl⟩
    exact ⟨_, ⟨hword, rfl⟩, hwhole⟩

/-- A pattern whose expression has a group for words behind some characters finds these words. -/
theorem find_behind_eq_some_iff {p : Pattern} {front : List Char} {body : Regex}
    (hp : p.program = .ofRegex (body.behind front).anchored) {words : List Char → Prop}
    (hbody : body.Spells words) {text found : String} :
    p.find? text = some found ↔ words found.toList ∧ text.toList = front ++ found.toList := by
  have hgroup : ∀ word, sliceText (front ++ word) front.length (front ++ word).length =
      String.ofList word := by
    intro word
    rw [sliceText, List.take_length, List.drop_left]
  simp only [find?, hp, Option.map_eq_some_iff, Regex.search_behind_iff hbody]
  constructor
  · rintro ⟨_, ⟨word, hword, htext, rfl⟩, rfl⟩
    have hfound := hgroup word
    rw [← htext] at hfound
    change words (sliceText text.toList front.length text.toList.length).toList ∧
      text.toList = front ++ (sliceText text.toList front.length text.toList.length).toList
    rw [hfound, String.toList_ofList]
    exact ⟨hword, htext⟩
  · rintro ⟨hword, htext⟩
    have hfound := hgroup found.toList
    rw [← htext, String.ofList_toList] at hfound
    exact ⟨_, ⟨_, hword, htext, rfl⟩, hfound⟩

/-- A common name whose source is an expression has a pattern with its program. -/
theorem exists_common {name source : String} {transform : Transform} {r : Regex}
    (hspec : commonSpec? name = some (source, transform))
    (h : Regex.ofText? (wholeText source) = some r) :
    ∃ p, common? name = some p ∧ p.source = source ∧ p.transform = transform ∧
      p.program = .ofRegex r := by
  rw [common?, hspec, Option.bind_some]
  dsimp only
  have hprogram : Program.ofText? (wholeText source) = some (.ofRegex r) := by
    rw [Program.ofText?, h]
    rfl
  unfold make?
  split
  · rename_i program hfound
    exact ⟨_, rfl, rfl, rfl, Option.some.inj (hfound.symm.trans hprogram)⟩
  · rename_i hnone
    cases hnone.symm.trans hprogram

/-- A pattern that does not find its own source captures what it finds, converted. -/
theorem capture_eq_some_iff {p : Pattern} (hsource : ∀ text, p.find? text ≠ some p.source)
    {text : String} {value : Value} : p.capture? text = some value ↔
      ∃ found, p.find? text = some found ∧ p.transform.apply found = some value := by
  rw [capture?, Option.bind_eq_some_iff]
  refine exists_congr fun found => and_congr_right fun hfound => ?_
  rw [if_neg fun heq : found = p.source => hsource text (heq ▸ hfound)]

end Pattern

/-! ### Rows of digits -/

/-- A numeral is a row of characters of every set that has the digits of its base. -/
theorem Numeral.row {base : Nat} (hbase : base ≤ 16) {chars : CharSet}
    (hdigits : ∀ point < 128, ∀ d < base, (Char.ofNat point).toLower = Nat.digitChar d →
      chars.contains (Char.ofNat point) = true)
    {cs : List Char} {n : Nat} (h : Numeral base cs n) : Regex.RowOf chars cs := by
  refine ⟨h.ne_nil, fun c hc => ?_⟩
  obtain ⟨d, hd, hwritten⟩ := h.digits c hc
  have hascii := ascii_of_written (Nat.lt_of_lt_of_le hd hbase) hwritten
  have hdigit := hdigits c.toNat hascii d hd
  rw [Char.ofNat_toNat] at hdigit
  exact hdigit hwritten

/-- No sign is among the characters of a row that does not have them. -/
theorem takeSign_row {chars : CharSet} (hminus : chars.contains '-' = false)
    (hplus : chars.contains '+' = false) {cs : List Char} (h : Regex.RowOf chars cs) :
    takeSign cs = (false, cs) := by
  refine takeSign_eq fun c hc => ⟨?_, ?_⟩
  · rintro rfl
    cases hminus.symm.trans (h.2 '-' hc)
  · rintro rfl
    cases hplus.symm.trans (h.2 '+' hc)

/-! ### The pattern for decimal integers -/

/-- The expression for digits that may have a hyphen in front of them. -/
def signedDigits : Regex :=
  .seq (.times (.one (.single '-')) 0 (some 1) true) (.times (.one .decimalDigit) 1 none true)

/-- The pattern for decimal integers has a source and a conversion. -/
theorem commonSpec_int : Pattern.commonSpec? "int" = some ("-?\\d+", .int) := by
  decide +kernel

/-- Its source is this expression between anchors. -/
theorem ofText_signedDigits :
    Regex.ofText? (wholeText "-?\\d+") = some signedDigits.anchored := by
  decide +kernel

/-- Whether a text has digits of any script, which may have a hyphen in front of them. -/
def SignedRow (text : List Char) : Prop :=
  ∃ sign digits, text = sign ++ digits ∧ (sign = [] ∨ sign = ['-']) ∧
    Regex.RowOf .decimalDigit digits

/-- The expression spells these texts. -/
theorem spells_signedDigits : signedDigits.Spells SignedRow :=
  ((Regex.spells_single '-').optional true).seq (Regex.spells_row .decimalDigit true)

/-- The decimal digits of ASCII are digits. -/
theorem decimalDigit_ascii : ∀ point < 128, ∀ d < 10,
    (Char.ofNat point).toLower = Nat.digitChar d →
      CharSet.decimalDigit.contains (Char.ofNat point) = true := by
  decide +kernel

/-- Decimal integers have digits, which may have a hyphen in front of them. -/
theorem DecimalInteger.signedRow {cs : List Char} {n : Int} (h : DecimalInteger cs n) :
    SignedRow cs := by
  cases h with
  | plain numeral => exact ⟨[], cs, rfl, .inl rfl, numeral.row (by decide) decimalDigit_ascii⟩
  | minus numeral =>
    exact ⟨['-'], _, rfl, .inr rfl, numeral.row (by decide) decimalDigit_ascii⟩

/-- Digits with a sign are read as the decimal integer that they stand for, if they do and
sixty-four bits hold it. -/
theorem readInt64_signedRow {cs : List Char} {n : Int} :
    SignedRow cs ∧ readInt64? 10 cs = some n ↔ DecimalInteger cs n ∧ fitsInt64 n = true := by
  constructor
  · rintro ⟨⟨_, digits, rfl, rfl | rfl, hrow⟩, hread⟩
    · have hsign : takeSign digits = (false, digits) :=
        takeSign_row (by decide +kernel) (by decide +kernel) hrow
      obtain ⟨m, hnumeral, rfl, hfits⟩ := (readInt64_eq_some_iff (by decide) hsign).mp hread
      exact ⟨.plain hnumeral, hfits⟩
    · obtain ⟨m, hnumeral, rfl, hfits⟩ := (readInt64_eq_some_iff (by decide) rfl).mp hread
      exact ⟨.minus hnumeral, hfits⟩
  · rintro ⟨hdecimal, hfits⟩
    refine ⟨hdecimal.signedRow, ?_⟩
    cases hdecimal with
    | plain numeral =>
      have hsign := takeSign_eq (numeral.not_sign (by decide))
      exact (readInt64_eq_some_iff (by decide) hsign).mpr ⟨_, numeral, rfl, hfits⟩
    | minus numeral => exact (readInt64_eq_some_iff (by decide) rfl).mpr ⟨_, numeral, rfl, hfits⟩

/-- The pattern for decimal integers captures the integers that sixty-four bits hold, as what they
are, and nothing else. -/
theorem capture_int_iff {p : Pattern} (hsource : p.source = "-?\\d+") (htransform : p.transform = .int)
    (hprogram : p.program = .ofRegex signedDigits.anchored) {text : String} {value : Value} :
    p.capture? text = some value ↔
      ∃ n : Int, value = .int n ∧ DecimalInteger text.toList n ∧ fitsInt64 n = true := by
  have hfind := fun text found =>
    @Pattern.find_eq_some_iff p _ hprogram _ spells_signedDigits text found
  have hplaceholder : ∀ text, p.find? text ≠ some p.source := by
    intro text hfound
    obtain ⟨⟨sign, digits, hsplit, hsign, hrow⟩, rfl⟩ := (hfind text p.source).mp hfound
    have hmark : '?' ∈ sign ++ digits := by
      rw [← hsplit, hsource]
      decide
    rcases List.mem_append.mp hmark with hmem | hmem
    · rcases hsign with rfl | rfl <;> simp at hmem
    · exact absurd (hrow.2 '?' hmem) (by decide +kernel)
  rw [Pattern.capture_eq_some_iff hplaceholder]
  simp only [hfind, htransform, Transform.apply, Option.map_eq_some_iff, ← readInt64_signedRow]
  constructor
  · rintro ⟨_, ⟨hrow, rfl⟩, n, hread, rfl⟩
    exact ⟨n, rfl, hrow, hread⟩
  · rintro ⟨n, rfl, hrow, hread⟩
    exact ⟨text, ⟨hrow, rfl⟩, n, hread, rfl⟩

/-! ### The pattern for hexadecimal integers -/

/-- The hexadecimal digits. -/
def hexDigit : CharSet := ⟨[(0x30, 0x39), (0x41, 0x46), (0x61, 0x66)]⟩

/-- The expression for hexadecimal digits behind the sign of the base. -/
def basedDigits : Regex := .behind ['0', 'x'] (.times (.one hexDigit) 1 none true)

/-- The pattern for hexadecimal integers has a source and a conversion. -/
theorem commonSpec_hex : Pattern.commonSpec? "hex" = some ("0x([0-9a-fA-F]+)", .hex) := by
  decide +kernel

/-- Its source is this expression between anchors. -/
theorem ofText_basedDigits :
    Regex.ofText? (wholeText "0x([0-9a-fA-F]+)") = some basedDigits.anchored := by
  decide +kernel

/-- The hexadecimal digits have values. -/
theorem hexDigit_ascii : ∀ point < 128, ∀ d < 16,
    (Char.ofNat point).toLower = Nat.digitChar d →
      hexDigit.contains (Char.ofNat point) = true := by
  decide +kernel

/-- The pattern for hexadecimal integers captures the naturals below the largest integer of
sixty-four bits, as what they are, and nothing else. -/
theorem capture_hex_iff {p : Pattern} (hsource : p.source = "0x([0-9a-fA-F]+)")
    (htransform : p.transform = .hex) (hprogram : p.program = .ofRegex basedDigits.anchored)
    {text : String} {value : Value} :
    p.capture? text = some value ↔ ∃ (n : Nat) (digits : List Char), value = .int n ∧
      text.toList = '0' :: 'x' :: digits ∧ Numeral 16 digits n ∧ fitsInt64 n = true := by
  have hfind := fun text found =>
    @Pattern.find_behind_eq_some_iff p _ _ hprogram _ (Regex.spells_row hexDigit true) text found
  have hplaceholder : ∀ text, p.find? text ≠ some p.source := by
    intro text hfound
    obtain ⟨hrow, -⟩ := (hfind text p.source).mp hfound
    have hmark : '(' ∈ p.source.toList := by
      rw [hsource]
      decide
    exact absurd (hrow.2 '(' hmark) (by decide)
  rw [Pattern.capture_eq_some_iff hplaceholder]
  simp only [hfind, htransform, Transform.apply, Option.map_eq_some_iff]
  constructor
  · rintro ⟨found, ⟨hrow, htext⟩, m, hread, rfl⟩
    have hsign : takeSign found.toList = (false, found.toList) :=
      takeSign_row (by decide) (by decide) hrow
    obtain ⟨n, hnumeral, rfl, hfits⟩ := (readInt64_eq_some_iff (by decide) hsign).mp hread
    exact ⟨n, found.toList, rfl, htext, hnumeral, hfits⟩
  · rintro ⟨n, digits, rfl, htext, hnumeral, hfits⟩
    have hsign := takeSign_eq (hnumeral.not_sign (by decide))
    refine ⟨String.ofList digits, ?_, n, ?_, rfl⟩
    · rw [String.toList_ofList]
      exact ⟨hnumeral.row (by decide) hexDigit_ascii, htext⟩
    · rw [String.toList_ofList]
      exact (readInt64_eq_some_iff (by decide) hsign).mpr ⟨n, hnumeral, rfl, hfits⟩

/-! ### The limits -/

/-- Sixty-four bits with a sign hold these integers. -/
theorem fitsInt64_iff {n : Int} : fitsInt64 n = true ↔ -2 ^ 63 ≤ n ∧ n < 2 ^ 63 := by
  simp [fitsInt64]

/-- A capture of at most one value, under a condition. -/
theorem eq_ite_some {captured : Option Value} {value : Value} {condition : Prop}
    [Decidable condition] (h : ∀ other, captured = some other ↔ other = value ∧ condition) :
    captured = if condition then some value else none := by
  split
  · rename_i hcondition
    exact (h value).mpr ⟨rfl, hcondition⟩
  · rename_i hcondition
    exact Option.eq_none_iff_forall_ne_some.mpr fun other hother =>
      hcondition ((h other).mp hother).2

/-- The pattern for decimal integers captures an integer in its usual form as this integer, and the
one for hexadecimal integers the digits of a natural behind the sign of the base, in any case, as
this natural; each captures nothing where sixty-four bits do not hold the integer. Whatever either
captures of any text is the integer that the text stands for. -/
theorem integer_captures :
    ∃ int hex, Pattern.common? "int" = some int ∧ Pattern.common? "hex" = some hex ∧
      (∀ n : Int, int.capture? (toString n) =
        if -2 ^ 63 ≤ n ∧ n < 2 ^ 63 then some (.int n) else none) ∧
      (∀ (n : Nat) (digits : List Char), digits.map Char.toLower = Nat.toDigits 16 n →
        hex.capture? ("0x" ++ String.ofList digits) =
          if n < 2 ^ 63 then some (.int n) else none) ∧
      (∀ text value, int.capture? text = some value ↔
        ∃ n : Int, value = .int n ∧ DecimalInteger text.toList n ∧ -2 ^ 63 ≤ n ∧ n < 2 ^ 63) ∧
      ∀ text value, hex.capture? text = some value ↔
        ∃ (n : Nat) (digits : List Char), value = .int n ∧
          text.toList = '0' :: 'x' :: digits ∧ Numeral 16 digits n ∧ n < 2 ^ 63 := by
  obtain ⟨int, hint, hsource, htransform, hprogram⟩ :=
    Pattern.exists_common commonSpec_int ofText_signedDigits
  obtain ⟨hex, hhex, hbased, hconvert, hbehind⟩ :=
    Pattern.exists_common commonSpec_hex ofText_basedDigits
  have hdecimal : ∀ text value, int.capture? text = some value ↔
      ∃ n : Int, value = .int n ∧ DecimalInteger text.toList n ∧ -2 ^ 63 ≤ n ∧ n < 2 ^ 63 := by
    intro text value
    simp only [capture_int_iff hsource htransform hprogram, fitsInt64_iff]
  have hbelow : ∀ n : Nat, fitsInt64 n = true ↔ n < 2 ^ 63 := fun n => by
    rw [fitsInt64_iff]
    omega
  have hhexadecimal : ∀ text value, hex.capture? text = some value ↔
      ∃ (n : Nat) (digits : List Char), value = .int n ∧
        text.toList = '0' :: 'x' :: digits ∧ Numeral 16 digits n ∧ n < 2 ^ 63 := by
    intro text value
    simp only [capture_hex_iff hbased hconvert hbehind, hbelow]
  refine ⟨int, hex, hint, hhex, fun n => ?_, fun n digits hdigits => ?_, hdecimal, hhexadecimal⟩
  · refine eq_ite_some fun other => ?_
    rw [hdecimal]
    constructor
    · rintro ⟨m, rfl, hm, hlimits⟩
      obtain rfl := hm.unique (decimalInteger_toString n)
      exact ⟨rfl, hlimits⟩
    · rintro ⟨rfl, hlimits⟩
      exact ⟨n, rfl, decimalInteger_toString n, hlimits⟩
  · have htext : ("0x" ++ String.ofList digits).toList = '0' :: 'x' :: digits := by simp
    have hnumeral := numeral_toDigits (by decide) hdigits
    refine eq_ite_some fun other => ?_
    rw [hhexadecimal, htext]
    constructor
    · rintro ⟨m, written, rfl, hwritten, hm, hlimit⟩
      cases hwritten
      obtain rfl := hm.unique (by decide) hnumeral
      exact ⟨rfl, hlimit⟩
    · rintro ⟨rfl, hlimit⟩
      exact ⟨n, digits, rfl, rfl, hnumeral, hlimit⟩

/-- The least integer is captured and the one below it is not; the largest natural is captured with
letters in either case, and the next one is not. -/
theorem integer_captures_limits :
    ∃ int hex, Pattern.common? "int" = some int ∧ Pattern.common? "hex" = some hex ∧
      int.capture? "-9223372036854775808" = some (.int (-0x8000000000000000)) ∧
      int.capture? "-9223372036854775809" = none ∧
      ("7fffFFFFffffFFFF".toList.map Char.toLower = Nat.toDigits 16 0x7fffffffffffffff ∧
        hex.capture? "0x7fffFFFFffffFFFF" = some (.int 0x7fffffffffffffff)) ∧
      "8000000000000000".toList.map Char.toLower = Nat.toDigits 16 0x8000000000000000 ∧
        hex.capture? "0x8000000000000000" = none := by
  obtain ⟨int, hex, hint, hhex, hdecimal, hhexadecimal, -⟩ := integer_captures
  have hlargest : "7fffFFFFffffFFFF".toList.map Char.toLower =
      Nat.toDigits 16 0x7fffffffffffffff := by decide +kernel
  have hnext : "8000000000000000".toList.map Char.toLower =
      Nat.toDigits 16 0x8000000000000000 := by decide +kernel
  have hleast : int.capture? (toString (-0x8000000000000000 : Int)) =
      some (.int (-0x8000000000000000)) := (hdecimal _).trans (if_pos (by decide))
  have hless : int.capture? (toString (-0x8000000000000001 : Int)) = none :=
    (hdecimal _).trans (if_neg (by decide))
  have hfits : hex.capture? ("0x" ++ String.ofList "7fffFFFFffffFFFF".toList) =
      some (.int 0x7fffffffffffffff) := (hhexadecimal _ _ hlargest).trans (if_pos (by decide))
  have hpasses : hex.capture? ("0x" ++ String.ofList "8000000000000000".toList) = none :=
    (hhexadecimal _ _ hnext).trans (if_neg (by decide))
  exact ⟨int, hex, hint, hhex, hleast, hless, ⟨hlargest, hfits⟩, hnext, hpasses⟩

end CommandGrammar
