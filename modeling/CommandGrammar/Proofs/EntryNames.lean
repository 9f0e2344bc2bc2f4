import CommandGrammar.Proofs.TreeReading
import Mathlib.Data.List.Basic
import Mathlib.Data.List.Induction

/-!
# The names of an entry

An entry is made of the names written between bars, and names, slots, a separator and a help text
are added to it step by step. The name it is known by is the first of the longest that were written.
All others follow by decreasing length, and names of one length in the order in which they were
given, whatever was added in between and however long it is.

Sorting is told by what it does to two names: `ListedBefore` compares their lengths and then the
places at which they were given. `names_through_steps` says which names are accepted and how they
are listed after any steps.
-/

namespace CommandGrammar

/-! ### Parts between bars -/

/-- Whether a text is cut into parts at its bars. -/
structure CutAtBars (text : String) (parts : List String) : Prop where
  /-- There is a part. -/
  some_part : parts ≠ []
  /-- The parts with bars between them are the text. -/
  joined : "|".intercalate parts = text
  /-- No part has a bar. -/
  bare : ∀ part ∈ parts, '|' ∉ part.toList

/-- Characters are cut at their bars. -/
theorem cutAtBars_joined (cs : List Char) :
    ['|'].intercalate ((cutAtBars cs).1 :: (cutAtBars cs).2) = cs ∧
      ∀ part ∈ (cutAtBars cs).1 :: (cutAtBars cs).2, '|' ∉ part := by
  induction cs with
  | nil => exact ⟨rfl, by simp [cutAtBars]⟩
  | cons c rest ih =>
    rw [cutAtBars]
    generalize cutAtBars rest = cut at ih ⊢
    obtain ⟨first, others⟩ := cut
    obtain ⟨hjoined, hbare⟩ := ih
    dsimp only at hjoined hbare ⊢
    split <;> rename_i hbar
    · rw [beq_iff_eq] at hbar
      refine ⟨?_, fun part hpart => ?_⟩
      · rw [List.intercalate_cons_cons, hjoined, hbar]
        rfl
      · rcases List.mem_cons.mp hpart with rfl | hpart
        · exact List.not_mem_nil
        · exact hbare part hpart
    · rw [beq_iff_eq] at hbar
      refine ⟨?_, fun part hpart => ?_⟩
      · cases others with
        | nil => simpa using hjoined
        | cons second others =>
          rw [List.intercalate_cons_cons] at hjoined ⊢
          rw [← hjoined]
          rfl
      · rcases List.mem_cons.mp hpart with rfl | hpart
        · have hfirst := hbare first List.mem_cons_self
          simp [hfirst, Ne.symm hbar]
        · exact hbare part (List.mem_cons_of_mem _ hpart)

/-- A text is cut at its bars. -/
theorem barParts_cut (text : String) : CutAtBars text (barParts text) := by
  obtain ⟨hjoined, hbare⟩ := cutAtBars_joined text.toList
  refine ⟨by simp [barParts], ?_, ?_⟩
  · rw [← String.toList_inj, String.toList_intercalate, barParts, List.map_map]
    simpa [Function.comp_def] using hjoined
  · simpa [barParts] using hbare

/-! ### Lists of names -/

/-- Of the distinct names of a list with one more, the last is new or there was one before. -/
theorem distinctNames_snoc (names : List String) (name : String) :
    distinctNames (names ++ [name]) =
      if name ∈ names then distinctNames names else distinctNames names ++ [name] := by
  have hseen := @mem_collected names [] name
  unfold distinctNames
  rw [List.foldl_append]
  generalize names.foldl (fun seen name => if seen.contains name then seen else name :: seen) [] =
    seen at hseen
  have hmem : name ∈ seen ↔ name ∈ names := by simpa using hseen
  by_cases hname : name ∈ names
  · simp [hname, hmem.mpr hname]
  · have hnew : name ∉ seen := fun h => hname (hmem.mp h)
    simp [hname, hnew]

/-- A name stands where it did when more names are given. -/
theorem idxOf_more {names : List String} {name : String} (h : name ∈ names) (more : List String) :
    (names ++ more).idxOf name = names.idxOf name := List.idxOf_append_of_mem h

/-- The distinct names of a list stand in the order in which they were given. -/
theorem distinctNames_pairwise (names : List String) :
    (distinctNames names).Pairwise fun a b => names.idxOf a < names.idxOf b := by
  induction names using List.reverseRecOn with
  | nil => exact List.Pairwise.nil
  | append_singleton names name ih =>
    have hkept : (distinctNames names).Pairwise fun a b =>
        (names ++ [name]).idxOf a < (names ++ [name]).idxOf b := by
      refine ih.imp_of_mem fun {a b} ha hb hlt => ?_
      rwa [idxOf_more (mem_distinctNames.mp ha), idxOf_more (mem_distinctNames.mp hb)]
    rw [distinctNames_snoc]
    split
    · exact hkept
    · rename_i hname
      refine List.pairwise_append.mpr ⟨hkept, List.pairwise_singleton _ _, fun a ha b hb => ?_⟩
      have hgiven : a ∈ names := mem_distinctNames.mp ha
      rw [List.mem_singleton.mp hb, idxOf_more hgiven, List.idxOf_append_of_notMem hname]
      exact Nat.lt_add_right _ (List.idxOf_lt_length_of_mem hgiven)

/-- A name is put in front of those that are not longer, whatever relation they have. -/
theorem insertByLength_pairwise {R : String → String → Prop} {name : String} {names : List String}
    (hnames : names.Pairwise fun a b =>
      b.utf8ByteSize < a.utf8ByteSize ∨ (a.utf8ByteSize = b.utf8ByteSize ∧ R a b))
    (hname : ∀ n ∈ names, name.utf8ByteSize = n.utf8ByteSize → R name n) :
    (insertByLength name names).Pairwise fun a b =>
      b.utf8ByteSize < a.utf8ByteSize ∨ (a.utf8ByteSize = b.utf8ByteSize ∧ R a b) := by
  induction names with
  | nil => exact List.pairwise_singleton _ _
  | cons n rest ih =>
    obtain ⟨hfirst, hrest⟩ := List.pairwise_cons.mp hnames
    unfold insertByLength
    split
    · rename_i hle
      -- Nothing behind the first name is longer than it.
      have hlonger : ∀ m ∈ n :: rest, m.utf8ByteSize ≤ name.utf8ByteSize := by
        intro m hm
        rcases List.mem_cons.mp hm with rfl | hm
        · exact hle
        · rcases hfirst m hm with hlt | ⟨heq, -⟩ <;> omega
      refine List.pairwise_cons.mpr ⟨fun m hm => ?_, hnames⟩
      rcases Nat.lt_or_eq_of_le (hlonger m hm) with hlt | heq
      · exact .inl hlt
      · exact .inr ⟨heq.symm, hname m hm heq.symm⟩
    · rename_i hlt
      have hbehind := ih hrest fun m hm => hname m (List.mem_cons_of_mem _ hm)
      refine List.pairwise_cons.mpr ⟨fun m hm => ?_, hbehind⟩
      rcases List.mem_cons.mp ((insertByLength_perm name rest).mem_iff.mp hm) with rfl | hm
      · exact .inl (Nat.lt_of_not_le hlt)
      · exact hfirst m hm

/-- Names are sorted by decreasing length, and names of one length keep the relation they had. -/
theorem longestFirst_pairwise {R : String → String → Prop} {names : List String}
    (h : names.Pairwise fun a b => a.utf8ByteSize = b.utf8ByteSize → R a b) :
    (longestFirst names).Pairwise fun a b =>
      b.utf8ByteSize < a.utf8ByteSize ∨ (a.utf8ByteSize = b.utf8ByteSize ∧ R a b) := by
  induction names with
  | nil => exact List.Pairwise.nil
  | cons name rest ih =>
    obtain ⟨hname, hrest⟩ := List.pairwise_cons.mp h
    exact insertByLength_pairwise (ih hrest) fun n hn =>
      hname n ((longestFirst_perm rest).mem_iff.mp hn)

/-! ### Steps -/

/-- A step of making an entry. -/
inductive EntryStep where
  /-- One more name. -/
  | name (text : String)
  /-- Other slots. -/
  | args (slots : SlotList)
  /-- A separator. -/
  | separator (text : String)
  /-- A help text. -/
  | help (text : String)

namespace EntryStep

/-- The entry after a step. -/
def apply (e : Entry) : EntryStep → Except GrammarFault Entry
  | name text => e.withAlias text
  | args slots => .ok (e.withArgs slots)
  | separator text => e.withSeparator text
  | help text => .ok (e.withHelp text)

/-- The name that a step adds. -/
def added? : EntryStep → Option String
  | name text => some text
  | _ => none

/-- Whether a step gives a text where one is needed. -/
def IsFilled : EntryStep → Prop
  | name text => text ≠ ""
  | separator text => text ≠ ""
  | _ => True

end EntryStep

/-- The entry after some steps. -/
def Entry.afterSteps (e : Entry) (steps : List EntryStep) : Except GrammarFault Entry :=
  steps.foldlM EntryStep.apply e

/-- Whether a name is listed before another: it is longer, or as long and given first. -/
def ListedBefore (given : List String) (a b : String) : Prop :=
  b.utf8ByteSize < a.utf8ByteSize ∨
    (a.utf8ByteSize = b.utf8ByteSize ∧ given.idxOf a < given.idxOf b)

/-- Whether an entry lists the names that were written and those that were added in turn. -/
structure Entry.Lists (e : Entry) (written added : List String) : Prop where
  /-- There is a name. -/
  some_name : e.aliases ≠ []
  /-- No name is empty. -/
  filled : "" ∉ e.aliases
  /-- No name is listed twice. -/
  once : e.aliases.Nodup
  /-- The names are those that were given. -/
  given : ∀ name, name ∈ e.aliases ↔ name ∈ written ∨ name ∈ added
  /-- The name it is known by comes first. -/
  first : e.aliases.head? = some e.name
  /-- It is one of those that were written. -/
  known : e.name ∈ written
  /-- It is the first of the longest of these. -/
  longest : ∀ name ∈ written, name ≠ e.name → ListedBefore written e.name name
  /-- The others are listed by length, and names of one length in the order they were given. -/
  ordered : e.aliases.tail.Pairwise (ListedBefore (written ++ added))

/-- Names are listed as before when more names are given. -/
theorem listedBefore_more {given : List String} {a b : String} (ha : a ∈ given) (hb : b ∈ given)
    (more : List String) : ListedBefore (given ++ more) a b ↔ ListedBefore given a b := by
  rw [ListedBefore, ListedBefore, idxOf_more ha, idxOf_more hb]

namespace Entry

/-- The names that are written between bars are listed. -/
theorem writtenNames_pairwise (text : String) :
    (writtenNames text).Pairwise (ListedBefore ((barParts text).filter (· != ""))) := by
  refine longestFirst_pairwise ((distinctNames_pairwise _).imp ?_)
  exact fun hlt _ => hlt

/-- The names that are written are the parts between bars that are not empty. -/
theorem mem_writtenNames {text name : String} :
    name ∈ writtenNames text ↔ name ∈ (barParts text).filter (· != "") := by
  rw [writtenNames, (longestFirst_perm _).mem_iff, mem_distinctNames]

/-- An entry is made of the names that are written between bars. -/
theorem aliases_of_ofNames {text : String} {e : Entry} (h : ofNames text = .ok e) :
    e.aliases = writtenNames text := by
  unfold ofNames at h
  split at h
  · cases h
  · rename_i hnames
    cases h
    exact hnames.symm

/-- Names are accepted when one of the parts between bars is not empty. -/
theorem ofNames_isOk_iff (text : String) :
    (ofNames text).isOk = true ↔ (barParts text).filter (· != "") ≠ [] := by
  have hnil : writtenNames text = [] ↔ (barParts text).filter (· != "") = [] := by
    simp only [List.eq_nil_iff_forall_not_mem, mem_writtenNames]
  rw [ne_eq, ← hnil]
  unfold ofNames
  split
  · rename_i hnames
    simp [hnames, Except.isOk, Except.toBool]
  · rename_i hnames
    simp [hnames, Except.isOk, Except.toBool]

/-- What an entry lists before any step. -/
theorem lists_of_ofNames {text : String} {e : Entry} (h : ofNames text = .ok e) :
    e.Lists ((barParts text).filter (· != "")) [] := by
  have hsame := aliases_of_ofNames h
  have hpairs := hsame ▸ writtenNames_pairwise text
  have hmem : ∀ name, name ∈ e.aliases ↔ name ∈ (barParts text).filter (· != "") := fun name => by
    rw [hsame, mem_writtenNames]
  obtain ⟨hfirst, hrest⟩ := List.pairwise_cons.mp hpairs
  refine ⟨List.cons_ne_nil _ _, fun hempty => e.named _ hempty rfl, e.distinct, fun name => ?_,
    rfl, (hmem _).mp List.mem_cons_self, fun name hname hne => ?_, ?_⟩
  · rw [hmem]
    simp
  · rcases List.mem_cons.mp ((hmem name).mpr hname) with heq | hothers
    · exact absurd heq hne
    · exact hfirst name hothers
  · rw [List.append_nil]
    exact hrest

/-- A name that is listed already changes nothing. -/
theorem withAlias_of_mem {e : Entry} {name : String} (hne : name ≠ "") (h : name ∈ e.aliases) :
    e.withAlias name = .ok e := by
  rw [withAlias, dif_neg hne, dif_pos h]

/-- A new name comes behind those of its length. -/
theorem aliases_of_withAlias {e after : Entry} {name : String} (h : name ∉ e.aliases)
    (hafter : e.withAlias name = .ok after) :
    after.aliases = e.name :: longestFirst (e.others ++ [name]) := by
  unfold withAlias at hafter
  split at hafter
  · cases hafter
  · cases hafter
    rfl

/-- Every name that is listed was given. -/
theorem Lists.mem_given {e : Entry} {written added : List String} (h : e.Lists written added)
    {name : String} (hname : name ∈ e.aliases) : name ∈ written ++ added :=
  List.mem_append.mpr ((h.given name).mp hname)

/-- A name that is listed already can be given again. -/
theorem Lists.again {e : Entry} {written added : List String} (h : e.Lists written added)
    {name : String} (hname : name ∈ e.aliases) : e.Lists written (added ++ [name]) := by
  refine { h with given := fun n => ?_, ordered := ?_ }
  · rw [h.given, List.mem_append, List.mem_singleton]
    refine ⟨fun hn => hn.imp_right .inl, ?_⟩
    rintro (hn | hn | rfl)
    · exact .inl hn
    · exact .inr hn
    · exact (h.given n).mp hname
  · rw [← List.append_assoc]
    refine h.ordered.imp_of_mem fun {a b} ha hb hab => ?_
    exact (listedBefore_more (h.mem_given (List.mem_cons_of_mem _ ha))
      (h.mem_given (List.mem_cons_of_mem _ hb)) _).mpr hab

/-- With a new name behind the others, names of one length are in the order in which they were
given. -/
theorem Lists.pairwise_new {e : Entry} {written added : List String} (h : e.Lists written added)
    {name : String} (hname : name ∉ e.aliases) :
    (e.others ++ [name]).Pairwise fun a b => a.utf8ByteSize = b.utf8ByteSize →
      (written ++ (added ++ [name])).idxOf a < (written ++ (added ++ [name])).idxOf b := by
  have hnew : name ∉ written ++ added := fun hmem =>
    hname ((h.given name).mpr (List.mem_append.mp hmem))
  rw [← List.append_assoc]
  refine List.pairwise_append.mpr ⟨?_, List.pairwise_singleton _ _, fun a ha b hb _ => ?_⟩
  · refine h.ordered.imp_of_mem fun {a b} ha hb hab heq => ?_
    rcases (listedBefore_more (h.mem_given (List.mem_cons_of_mem _ ha))
      (h.mem_given (List.mem_cons_of_mem _ hb)) [name]).mpr hab with hlt | ⟨-, hlt⟩
    · omega
    · exact hlt
  · have hold := h.mem_given (List.mem_cons_of_mem _ ha)
    rw [List.mem_singleton.mp hb, idxOf_more hold, List.idxOf_append_of_notMem hnew]
    exact Nat.lt_add_right _ (List.idxOf_lt_length_of_mem hold)

/-- One more name is listed with the others. -/
theorem Lists.withAlias {e after : Entry} {written added : List String} (h : e.Lists written added)
    {name : String} (hafter : e.withAlias name = .ok after) :
    after.name = e.name ∧ after.Lists written (added ++ [name]) := by
  by_cases hname : name ∈ e.aliases
  · have hsame : after = e := by
      rw [withAlias_of_mem (fun hempty => h.filled (hempty ▸ hname)) hname] at hafter
      exact (Except.ok.inj hafter).symm
    rw [hsame]
    exact ⟨rfl, h.again hname⟩
  · have haliases := aliases_of_withAlias hname hafter
    obtain ⟨hsame, hothers⟩ := List.cons.inj haliases
    have hmem : ∀ n, n ∈ after.aliases ↔ n ∈ e.aliases ∨ n = name := fun n => by
      rw [haliases, List.mem_cons, (longestFirst_perm _).mem_iff, List.mem_append,
        List.mem_singleton, ← or_assoc, aliases, List.mem_cons]
    refine ⟨hsame, ⟨List.cons_ne_nil _ _, fun hempty => after.named _ hempty rfl, after.distinct,
      fun n => ?_, rfl, hsame ▸ h.known, hsame ▸ h.longest, ?_⟩⟩
    · rw [hmem, h.given, List.mem_append, List.mem_singleton, or_assoc]
    · rw [haliases]
      exact longestFirst_pairwise (h.pairwise_new hname)

/-- The other steps keep what is listed. -/
theorem Lists.of_aliases {e after : Entry} {written added : List String} (h : e.Lists written added)
    (hsame : after.aliases = e.aliases) : after.name = e.name ∧ after.Lists written added := by
  have hname : after.name = e.name := (List.cons.inj hsame).1
  refine ⟨hname, ?_, ?_, ?_, ?_, ?_, ?_, ?_, ?_⟩
  all_goals simp only [hsame, hname]
  exacts [h.some_name, h.filled, h.once, h.given, h.first, h.known, h.longest, h.ordered]

/-- A step keeps the name that an entry is known by and lists the name that it adds. -/
theorem Lists.step {e after : Entry} {written added : List String} (h : e.Lists written added)
    {step : EntryStep} (hafter : step.apply e = .ok after) :
    after.name = e.name ∧ after.Lists written (added ++ step.added?.toList) := by
  cases step with
  | name text => exact h.withAlias hafter
  | args slots =>
    cases hafter
    exact (List.append_nil added).symm ▸ h.of_aliases rfl
  | separator text =>
    simp only [EntryStep.apply, withSeparator] at hafter
    split at hafter
    · cases hafter
    · cases hafter
      exact (List.append_nil added).symm ▸ h.of_aliases rfl
  | help text =>
    cases hafter
    exact (List.append_nil added).symm ▸ h.of_aliases rfl

/-- Steps keep the name that an entry is known by and list the names that they add. -/
theorem Lists.steps {e after : Entry} {written added : List String} (h : e.Lists written added)
    {steps : List EntryStep} (hafter : e.afterSteps steps = .ok after) :
    after.name = e.name ∧ after.Lists written (added ++ steps.filterMap EntryStep.added?) := by
  induction steps generalizing e added with
  | nil =>
    cases hafter
    rw [List.filterMap_nil, List.append_nil]
    exact ⟨rfl, h⟩
  | cons step rest ih =>
    rw [afterSteps, List.foldlM_cons] at hafter
    cases hstep : step.apply e with
    | error fault =>
      rw [hstep] at hafter
      cases hafter
    | ok next =>
      rw [hstep] at hafter
      obtain ⟨hname, hnext⟩ := h.step hstep
      obtain ⟨hlast, hlists⟩ := ih hnext hafter
      refine ⟨hlast.trans hname, ?_⟩
      cases hadded : step.added? with
      | none => simpa [List.filterMap_cons, hadded] using hlists
      | some text => simpa [List.filterMap_cons, hadded] using hlists

/-- A step is accepted when it gives a text where one is needed. -/
theorem apply_isOk_iff (e : Entry) (step : EntryStep) :
    (step.apply e).isOk = true ↔ step.IsFilled := by
  cases step with
  | name text =>
    simp only [EntryStep.apply, EntryStep.IsFilled, withAlias]
    split
    · simp_all [Except.isOk, Except.toBool]
    · split <;> simp_all [Except.isOk, Except.toBool]
  | args slots => exact ⟨fun _ => trivial, fun _ => rfl⟩
  | separator text =>
    simp only [EntryStep.apply, EntryStep.IsFilled, withSeparator]
    split <;> simp_all [Except.isOk, Except.toBool]
  | help text => exact ⟨fun _ => trivial, fun _ => rfl⟩

/-- Steps are accepted when each of them is. -/
theorem afterSteps_isOk_iff (e : Entry) (steps : List EntryStep) :
    (e.afterSteps steps).isOk = true ↔ ∀ step ∈ steps, step.IsFilled := by
  induction steps generalizing e with
  | nil => exact ⟨fun _ _ h => (nomatch h), fun _ => rfl⟩
  | cons step rest ih =>
    rw [afterSteps, List.foldlM_cons, List.forall_mem_cons, ← apply_isOk_iff e step]
    cases hstep : step.apply e with
    | error fault => exact ⟨fun h => (nomatch h), fun h => (nomatch h.1)⟩
    | ok next => exact (ih next).trans ⟨fun h => ⟨rfl, h⟩, fun h => h.2⟩

/-- The names of an entry are those between the bars of a text and those that steps add. A text is
accepted when a part between its bars is not empty, and steps when no name or separator they give is
empty. The entry is known by the first of the longest parts, which no step changes, and lists the
other names by decreasing length, and those of one length in the order in which they were given. -/
theorem names_through_steps (text : String) : ∃ parts, CutAtBars text parts ∧
    let written := parts.filter (· != "")
    ((ofNames text).isOk = true ↔ written ≠ []) ∧
    ∀ start, ofNames text = .ok start → ∀ steps,
      ((start.afterSteps steps).isOk = true ↔ ∀ step ∈ steps, step.IsFilled) ∧
      ∀ e, start.afterSteps steps = .ok e →
        e.name = start.name ∧ e.Lists written (steps.filterMap EntryStep.added?) := by
  refine ⟨barParts text, barParts_cut text, ofNames_isOk_iff text, fun start hstart steps => ?_⟩
  refine ⟨afterSteps_isOk_iff start steps, fun e he => ?_⟩
  have hlists := (lists_of_ofNames hstart).steps he
  rwa [List.nil_append] at hlists

/-- Names added to those of a flag, the first of them longer than the one it is known by, the second
as long as one that was written, and the last there already. -/
theorem names_through_steps_verbose :
    let steps : List EntryStep :=
      [.name "--very-verbose", .separator "=", .name "-q", .help "more", .name "-vv"]
    ∃ start e, ofNames "-v|--verbose||-vv|-v" = .ok start ∧ start.afterSteps steps = .ok e ∧
      e.aliases = ["--verbose", "--very-verbose", "-vv", "-v", "-q"] ∧ e.name = start.name ∧
      ∃ parts, CutAtBars "-v|--verbose||-vv|-v" parts ∧
        e.Lists (parts.filter (· != "")) ["--very-verbose", "-q", "-vv"] := by
  intro steps
  have hresult : ((ofNames "-v|--verbose||-vv|-v").toOption.bind fun start =>
      (start.afterSteps steps).toOption.map aliases) =
        some ["--verbose", "--very-verbose", "-vv", "-v", "-q"] := by decide +kernel
  obtain ⟨start, hstart, hsteps⟩ := Option.bind_eq_some_iff.mp hresult
  obtain ⟨e, he, haliases⟩ := Option.map_eq_some_iff.mp hsteps
  obtain ⟨parts, hparts, -, hnames⟩ := names_through_steps "-v|--verbose||-vv|-v"
  obtain ⟨hname, hlists⟩ := (hnames start (eq_ok_iff.mpr hstart) steps).2 e (eq_ok_iff.mpr he)
  exact ⟨start, e, eq_ok_iff.mpr hstart, eq_ok_iff.mpr he, haliases, hname, parts, hparts, hlists⟩

end Entry

end CommandGrammar
