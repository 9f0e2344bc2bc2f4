import CommandGrammar.Proofs.SearchTrail
import CommandGrammar.Regex.Parser

/-!
# Expressions for given texts

A text in which every character stands for itself, or is quoted, is read as an expression for just
that text; quoted texts with bars between them are read as an expression for any of them. In front
of such an expression another may be optional.

Between the two anchors such an expression is found in a text exactly when it spells the whole text.
-/

namespace CommandGrammar

/-- A step is taken over the next character, if it is in the set. -/
theorem Thread.step_eq_some_iff {chars : CharSet} {s t : Thread} :
    s.step? chars = some t ↔ ∃ c rest, s.ahead = c :: rest ∧ chars.contains c = true ∧
      t = { s with ahead := rest, before := some c, position := s.position + 1 } := by
  unfold step?
  constructor
  · intro h
    split at h
    · cases h
    · rename_i c rest hahead
      split at h
      · rename_i hcontains
        cases h
        exact ⟨c, rest, hahead, hcontains, rfl⟩
      · cases h
  · rintro ⟨c, rest, hahead, hcontains, rfl⟩
    rw [hahead]
    exact if_pos hcontains

/-- Step over the characters of a word. -/
def Thread.readWord : List Char → Thread → Option Thread
  | [], s => some s
  | c :: rest, s => (s.step? (.single c)).bind (Thread.readWord rest)

/-- One word after the other is both together. -/
theorem Thread.readWord_append (first second : List Char) (s : Thread) :
    s.readWord (first ++ second) = (s.readWord first).bind (Thread.readWord second) := by
  induction first generalizing s with
  | nil => rfl
  | cons c first ih =>
    simp only [List.cons_append, readWord, Option.bind_assoc]
    exact Option.bind_congr fun t _ => ih t

/-- A word can be stepped over exactly where it is ahead; groups stay as they are. -/
theorem Thread.readWord_eq_some {word : List Char} {s t : Thread} (h : s.readWord word = some t) :
    s.ahead = word ++ t.ahead ∧ t.groups = s.groups := by
  induction word generalizing s with
  | nil =>
    cases h
    exact ⟨rfl, rfl⟩
  | cons c word ih =>
    obtain ⟨u, hstep, hrest⟩ := Option.bind_eq_some_iff.mp h
    obtain ⟨hahead, hgroups⟩ := ih hrest
    obtain ⟨d, rest, hd, hcontains, rfl⟩ := step_eq_some_iff.mp hstep
    rw [CharSet.contains_single, beq_iff_eq] at hcontains
    exact ⟨hd.trans (by rw [hcontains, List.cons_append, ← hahead]), hgroups⟩

/-- A word that is ahead can be stepped over. -/
theorem Thread.exists_readWord {word rest : List Char} {s : Thread} (h : s.ahead = word ++ rest) :
    ∃ t, s.readWord word = some t ∧ t.ahead = rest := by
  induction word generalizing s with
  | nil => exact ⟨s, rfl, h⟩
  | cons c word ih =>
    have hstep : s.step? (.single c) = some
        { s with ahead := word ++ rest, before := some c, position := s.position + 1 } := by
      simp [step?, h, CharSet.contains_single]
    obtain ⟨t, ht, hrest⟩ := @ih { s with ahead := _, before := _, position := _ } rfl
    exact ⟨t, by rw [readWord, hstep]; exact ht, hrest⟩

/-- No character is before the first place of a text only. -/
theorem Thread.startAt_first {text : List Char} {place : Nat} (hle : place ≤ text.length)
    (h : (Thread.startAt text place).before = none) : place = 0 := by
  have hlength := congrArg List.length (List.getLast?_eq_none_iff.mp h)
  rw [List.length_take, List.length_nil] at hlength
  omega

namespace Regex

/-- Whether an expression has just the texts of a set. -/
def Spells (r : Regex) (words : List Char → Prop) : Prop :=
  ∀ s t, r.Runs s t ↔ ∃ word, words word ∧ s.readWord word = some t

/-- The expression for one text. -/
def literal (word : List Char) : Regex := .sequence (word.map fun c => .one (.single c))

/-- The expression for any of some. -/
def choice : List Regex → Regex
  | [] => empty
  | first :: rest => alternation first rest

/-- One expression after the other spells what the two spell, put together. -/
theorem Spells.seq {first second : Regex} {front back : List Char → Prop}
    (hfirst : first.Spells front) (hsecond : second.Spells back) :
    (seq first second).Spells fun word => ∃ a b, word = a ++ b ∧ front a ∧ back b := by
  intro s t
  simp only [Runs, hfirst s, hsecond _ t]
  constructor
  · rintro ⟨u, ⟨a, ha, hu⟩, b, hb, ht⟩
    refine ⟨a ++ b, ⟨a, b, rfl, ha, hb⟩, ?_⟩
    rw [Thread.readWord_append, hu]
    exact ht
  · rintro ⟨_, ⟨a, b, rfl, ha, hb⟩, ht⟩
    rw [Thread.readWord_append] at ht
    obtain ⟨u, hu, ht⟩ := Option.bind_eq_some_iff.mp ht
    exact ⟨u, ⟨a, ha, hu⟩, b, hb, ht⟩

/-- What may be left out spells the empty text as well. -/
theorem Spells.optional {body : Regex} {words : List Char → Prop} (h : body.Spells words)
    (greedy : Bool) : (times body 0 (some 1) greedy).Spells fun word => word = [] ∨ words word := by
  intro s t
  simp only [Runs]
  constructor
  · rintro ⟨n, -, hn, ht⟩
    have hle : n ≤ 1 := by simpa using hn
    rcases Nat.le_one_iff_eq_zero_or_eq_one.mp hle with rfl | rfl
    · cases ht
      exact ⟨[], .inl rfl, rfl⟩
    · obtain ⟨u, hu, rfl⟩ := ht
      obtain ⟨word, hword, ht⟩ := (h s t).mp hu
      exact ⟨word, .inr hword, ht⟩
  · rintro ⟨word, rfl | hword, ht⟩
    · cases ht
      exact ⟨0, Nat.le_refl 0, by simp, rfl⟩
    · exact ⟨1, Nat.zero_le 1, by simp, t, (h s t).mpr ⟨word, hword, ht⟩, rfl⟩

/-- The expression for a character spells that character. -/
theorem spells_single (c : Char) : (one (.single c)).Spells (· = [c]) := by
  intro s t
  have hword : s.readWord [c] = s.step? (.single c) := Option.bind_fun_some _
  simp [Runs, hword]

/-- The expression for a text spells that text. -/
theorem spells_literal (word : List Char) : (literal word).Spells (· = word) := by
  induction word with
  | nil =>
    intro s t
    simp [literal, Regex.sequence, Runs, Thread.readWord, eq_comm]
  | cons c word ih =>
    cases word with
    | nil => exact spells_single c
    | cons d word =>
      intro s t
      have hboth := (spells_single c).seq ih s t
      simpa [literal, Regex.sequence] using hboth

/-- The expression for any of some texts spells these. -/
theorem spells_choice {words : List (List Char)} (h : words ≠ []) :
    (choice (words.map literal)).Spells (· ∈ words) := by
  obtain ⟨first, rest, rfl⟩ := List.exists_cons_of_ne_nil h
  clear h
  simp only [List.map_cons, choice]
  induction rest generalizing first with
  | nil =>
    intro s t
    simpa [alternation] using spells_literal first s t
  | cons second rest ih =>
    intro s t
    simp only [List.map_cons, alternation, Runs, ih second s t, spells_literal first s t]
    simp [List.mem_cons, or_and_right, exists_or]

/-- Whether reading a text takes one builder to another, whatever follows. -/
def Builds (b : Builder) (front : List Char) (next : Builder) : Prop :=
  ∃ steps ≤ front.length, ∀ budget rest,
    buildFrom (budget + steps) b (front ++ rest) = buildFrom budget next rest

/-- One text after the other is read. -/
theorem Builds.trans {b next last : Builder} {front back : List Char} (first : Builds b front next)
    (second : Builds next back last) : Builds b (front ++ back) last := by
  obtain ⟨m, hm, hfirst⟩ := first
  obtain ⟨n, hn, hsecond⟩ := second
  refine ⟨n + m, by rw [List.length_append]; omega, fun budget rest => ?_⟩
  rw [List.append_assoc, ← Nat.add_assoc, hfirst, hsecond]

/-- One step reads an element if blanks are not left out. -/
theorem buildFrom_step {b next : Builder} (hflags : b.flags = .start) {c : Char}
    {cs rest : List Char} (hstep : buildStep b (c :: cs) = some (next, rest)) (budget : Nat) :
    buildFrom (budget + 1) b (c :: cs) = buildFrom budget next rest := by
  have hskip : skip b.flags (c :: cs) = c :: cs := by rw [hflags]; rfl
  rw [buildFrom, hskip]
  simp only [hstep]

/-- An element that takes one step is read. -/
theorem builds_step {b next : Builder} (hflags : b.flags = .start) {c : Char} {cs : List Char}
    (hstep : ∀ rest, buildStep b (c :: (cs ++ rest)) = some (next, rest)) :
    Builds b (c :: cs) next :=
  ⟨1, by simp, fun budget rest => buildFrom_step hflags (hstep rest) budget⟩

/-- The element for one character. -/
def characterPart (c : Char) : Part := .one (.single c) 0

/-- The builder with the elements for the characters of a word added. -/
def Builder.withWord (b : Builder) (word : List Char) : Builder :=
  { b with elements := (word.map fun c => Element.part (characterPart c)).reverse ++ b.elements }

/-- A character that has no meaning of its own stands for itself, also a hyphen. -/
theorem builds_plain {b : Builder} (hflags : b.flags = .start) {c : Char}
    (h : isMeta c = false ∨ c = '-') : Builds b [c] (b.withWord [c]) := by
  refine builds_step hflags fun rest => ?_
  unfold buildStep
  split <;> rename_i heq <;> cases heq
  all_goals first
    | exact absurd h (by decide)
    | simp [Atom.toPart, hflags, RegexFlags.start, Builder.push, Builder.withWord, characterPart]

/-- A quoted character stands for itself. -/
theorem builds_quoted {b : Builder} (hflags : b.flags = .start) {c : Char}
    (h : isMeta c = true) : Builds b ['\\', c] (b.withWord [c]) := by
  refine builds_step hflags fun rest => ?_
  simp [buildStep, readEscape, h, Atom.toPart, hflags, RegexFlags.start, Builder.push,
    Builder.withWord, characterPart]

/-- A word is read character by character, in whatever way each is written. -/
theorem builds_word {spell : Char → List Char} {word : List Char}
    (hspell : ∀ c ∈ word, ∀ b : Builder, b.flags = .start → Builds b (spell c) (b.withWord [c]))
    {b : Builder} (hflags : b.flags = .start) : Builds b (word.flatMap spell) (b.withWord word) := by
  induction word generalizing b with
  | nil => exact ⟨0, Nat.le_refl 0, fun _ _ => rfl⟩
  | cons c word ih =>
    have hrest := ih (fun d hd => hspell d (List.mem_cons_of_mem _ hd))
      (show (b.withWord [c]).flags = .start from hflags)
    have hboth := (hspell c List.mem_cons_self b hflags).trans hrest
    simpa [Builder.withWord] using hboth

/-- The sequence under way is that of its parts. -/
theorem sequence_body {b : Builder} {parts : List Part}
    (h : b.elements = (parts.map Element.part).reverse) :
    b.sequence.body = .sequence (parts.map Part.body) := by
  unfold Builder.sequence
  match parts with
  | [] => simp [h, Part.empty, Regex.sequence]
  | [p] => simp [h, Regex.sequence]
  | p :: q :: rest =>
    have hparts : b.elements.reverse.filterMap Element.part? = p :: q :: rest := by
      simp [h, Function.comp_def, Element.part?]
    have hlength : 2 ≤ b.elements.length := by simp [h]
    rw [hparts]
    -- Two elements are neither no element nor a single one.
    split
    · rename_i heq
      simp [heq] at hlength
    · rename_i heq
      simp [heq] at hlength
    · rename_i heq
      simp [heq] at hlength
    · rfl

/-- The whole of a builder is any of its alternatives. -/
theorem whole_body (b : Builder) :
    b.whole.body = choice ((b.alternatives.reverse ++ [b.sequence]).map Part.body) := by
  unfold Builder.whole
  split
  · rename_i h
    simp at h
  · rename_i only h
    rw [h]
    rfl
  · rename_i first rest h
    rw [h]
    rfl

/-- Where nothing precedes a word, the sequence under way is the expression for it. -/
theorem sequence_withWord {b : Builder} (h : b.elements = []) (word : List Char) :
    (b.withWord word).sequence.body = literal word := by
  have hparts : (b.withWord word).elements =
      ((word.map characterPart).map Element.part).reverse := by
    simp [Builder.withWord, h]
  rw [sequence_body hparts]
  simp [literal, characterPart, Part.one, Function.comp_def]

/-- A builder with other alternatives and elements. -/
def Builder.withParts (b : Builder) (alternatives : List Part) (elements : List Element) : Builder :=
  { b with alternatives, elements }

/-- Whether a text, where nothing precedes it, is read as an expression. -/
def Denotes (content : List Char) (body : Regex) : Prop :=
  ∀ b : Builder, b.flags = .start → b.alternatives = [] → b.elements = [] →
    ∃ alternatives elements, Builds b content (b.withParts alternatives elements) ∧
      (b.withParts alternatives elements).whole.body = body

/-- A word is read as the expression for it, in whatever way its characters are written. -/
theorem denotes_word {spell : Char → List Char} {word : List Char}
    (hspell : ∀ c ∈ word, ∀ b : Builder, b.flags = .start → Builds b (spell c) (b.withWord [c])) :
    Denotes (word.flatMap spell) (literal word) := by
  intro b hflags halternatives helements
  refine ⟨_, _, builds_word hspell hflags, ?_⟩
  have hbody := whole_body (b.withWord word)
  rw [List.map_append, List.map_singleton, sequence_withWord helements] at hbody
  refine hbody.trans ?_
  simp [Builder.withWord, halternatives, choice, alternation]

/-- A bar ends an alternative. -/
theorem builds_bar {b : Builder} (hflags : b.flags = .start) : Builds b ['|'] b.bar :=
  builds_step hflags fun _ => rfl

/-- Words with bars between them are added to the alternatives. -/
theorem builds_words {spell : Char → List Char}
    (hspell : ∀ c, ∀ b : Builder, b.flags = .start → Builds b (spell c) (b.withWord [c]))
    (first : List Char) (rest : List (List Char)) {b : Builder} (hflags : b.flags = .start)
    (helements : b.elements = []) :
    ∃ alternatives elements,
      Builds b (['|'].intercalate ((first :: rest).map (List.flatMap spell)))
        (b.withParts alternatives elements) ∧
      (alternatives.reverse ++ [(b.withParts alternatives elements).sequence]).map Part.body =
        b.alternatives.reverse.map Part.body ++ (first :: rest).map literal := by
  induction rest generalizing first b with
  | nil =>
    have hword := builds_word (fun c (_ : c ∈ first) => hspell c) hflags
    have hbody := sequence_withWord helements first
    refine ⟨b.alternatives, (b.withWord first).elements, ?_, ?_⟩
    · simp only [List.map_cons, List.map_nil, List.intercalate_singleton]
      exact hword
    · rw [List.map_append]
      exact congrArg (_ ++ [·]) hbody
  | cons second rest ih =>
    have hword := builds_word (fun c (_ : c ∈ first) => hspell c) hflags
    have hbody := sequence_withWord helements first
    obtain ⟨alternatives, elements, hbuilds, hbodies⟩ :=
      @ih second (b.withWord first).bar hflags rfl
    refine ⟨alternatives, elements, ?_, hbodies.trans ?_⟩
    · rw [List.map_cons, List.map_cons, List.intercalate_cons_cons]
      exact (hword.trans (builds_bar hflags)).trans hbuilds
    · have hfirst : (b.withWord first).bar.alternatives =
          (b.withWord first).sequence :: b.alternatives := rfl
      rw [hfirst, List.reverse_cons, List.map_append, List.map_singleton, hbody, List.append_assoc]
      rfl

/-- Words with bars between them are read as the expression for any of them. -/
theorem denotes_words {spell : Char → List Char}
    (hspell : ∀ c, ∀ b : Builder, b.flags = .start → Builds b (spell c) (b.withWord [c]))
    {words : List (List Char)} (h : words ≠ []) :
    Denotes (['|'].intercalate (words.map (List.flatMap spell))) (choice (words.map literal)) := by
  obtain ⟨first, rest, rfl⟩ := List.exists_cons_of_ne_nil h
  intro b hflags halternatives helements
  obtain ⟨alternatives, elements, hbuilds, hbodies⟩ :=
    builds_words hspell first rest hflags helements
  refine ⟨alternatives, elements, hbuilds, ?_⟩
  rw [whole_body]
  refine (congrArg choice hbodies).trans ?_
  rw [halternatives]
  rfl

/-- A group without a number is read as a part for its content. -/
theorem builds_group {content : List Char} {body : Regex} (h : Denotes content body) {b : Builder}
    (hflags : b.flags = .start) :
    ∃ part, part.body = body ∧
      Builds b (['(', '?', ':'] ++ content ++ [')']) (b.push (.part part)) := by
  have hopen : Builds b ['(', '?', ':'] (b.openGroup none b.flags) :=
    builds_step hflags fun rest => by
      simp [buildStep, readGroup, skip, readFlags, hflags, RegexFlags.start]
  obtain ⟨alternatives, elements, hcontent, hbody⟩ :=
    h (b.openGroup none b.flags) hflags rfl rfl
  generalize hnext : (b.openGroup none b.flags).withParts alternatives elements = next
    at hcontent hbody
  have hclose : Builds next [')'] (b.push (.part (next.whole.grouped none))) :=
    builds_step (by rw [← hnext]; exact hflags) fun rest => by
      subst hnext
      rfl
  exact ⟨next.whole.grouped none, hbody, (hopen.trans hcontent).trans hclose⟩

/-- A group that may be left out, in front of another one. -/
theorem builds_optional {front back : List Char} {first second : Regex}
    (hfirst : Denotes front first) (hsecond : Denotes back second) {b : Builder}
    (hflags : b.flags = .start) :
    ∃ lead part, lead.body = .times first 0 (some 1) true ∧ part.body = second ∧
      Builds b (['(', '?', ':'] ++ front ++ [')', '?'] ++ (['(', '?', ':'] ++ back ++ [')']))
        ((b.push (.part lead)).push (.part part)) := by
  obtain ⟨inner, hinner, hgroup⟩ := builds_group hfirst hflags
  have hlead : (inner.times 0 (some 1) true).body = .times first 0 (some 1) true := by
    have hcounts : (if inner.layout.isBlank = true then Layout.blankCounts 0 (some 1)
        else (0, some 1)) = (0, some 1) := by split <;> rfl
    simp only [Part.times, hcounts, hinner]
  let lead : Builder := b.push (.part (inner.times 0 (some 1) true))
  have hlast : (b.push (.part inner)).flags = .start := hflags
  obtain ⟨part, hpart, steps, hsteps, hback⟩ := builds_group hsecond (show lead.flags = .start from hflags)
  refine ⟨_, part, hlead, hpart, ?_⟩
  -- The mark is followed by a group, so it is not read as one that makes the repetition lazy.
  have hmark : Builds (b.push (.part inner)) ('?' :: (['(', '?', ':'] ++ back ++ [')']))
      (lead.push (.part part)) := by
    refine ⟨steps + 1, Nat.succ_le_succ hsteps, fun budget rest => ?_⟩
    rw [← Nat.add_assoc, List.cons_append, buildFrom_step hlast, hback]
    simp [buildStep, takeLazy, Builder.repeatLast?, Builder.push, lead, hflags, RegexFlags.start]
  have hboth := hgroup.trans hmark
  simpa using hboth

/-- What a whole text builds is read from it. -/
theorem buildFrom_of_builds {text : List Char} {next : Builder} (h : Builds .start text next) :
    buildFrom text.length .start text = some next := by
  obtain ⟨steps, hsteps, hbuilds⟩ := h
  have hend := hbuilds (text.length - steps) []
  rw [Nat.sub_add_cancel hsteps, List.append_nil] at hend
  have hskip : skip next.flags [] = [] := by
    unfold skip
    split <;> rfl
  rw [hend, buildFrom, hskip]

/-- An expression that is accepted is the sequence of the parts that its text builds. -/
theorem ofText?_of_builds {text : List Char} {next : Builder} {parts : List Part} {r : Regex}
    (hbuilds : Builds .start text next) (halternatives : next.alternatives = [])
    (helements : next.elements = (parts.map Element.part).reverse) (h : ofText? text = some r) :
    r = .sequence (parts.map Part.body) := by
  unfold ofText? at h
  rw [buildFrom_of_builds hbuilds] at h
  dsimp only at h
  split at h
  · cases h
    rw [whole_body, halternatives]
    exact sequence_body helements
  · cases h

/-- The start anchor, where flags are as at the start. -/
theorem builds_anchor {b : Builder} (hflags : b.flags = .start) :
    Builds b ['^'] (b.push (.part (.place .textStart))) ∧
      Builds b ['$'] (b.push (.part (.place .textEnd))) :=
  ⟨builds_step hflags fun _ => by simp [buildStep, hflags, RegexFlags.start],
    builds_step hflags fun _ => by simp [buildStep, hflags, RegexFlags.start]⟩

/-- A group between anchors is read as the sequence of both anchors and its content. -/
theorem ofText?_anchored {content : List Char} {body r : Regex} (hcontent : Denotes content body)
    (h : ofText? (['^'] ++ (['(', '?', ':'] ++ content ++ [')']) ++ ['$']) = some r) :
    r = .sequence [.place .textStart, body, .place .textEnd] := by
  have hstart := (@builds_anchor .start rfl).1
  obtain ⟨part, rfl, hgroup⟩ := @builds_group _ _ hcontent
    (Builder.start.push (.part (.place .textStart))) rfl
  have hend := (@builds_anchor ((Builder.start.push (.part (.place .textStart))).push
    (.part part)) rfl).2
  exact @ofText?_of_builds _ _ [.place .textStart, part, .place .textEnd] r
    ((hstart.trans hgroup).trans hend) rfl rfl h

/-- An optional group and another one between anchors are read in their order. -/
theorem ofText?_optional {front back : List Char} {first second r : Regex}
    (hfirst : Denotes front first) (hsecond : Denotes back second)
    (h : ofText? (['^'] ++ (['(', '?', ':'] ++ front ++ [')', '?'] ++
      (['(', '?', ':'] ++ back ++ [')'])) ++ ['$']) = some r) :
    r = .sequence [.place .textStart, .times first 0 (some 1) true, second, .place .textEnd] := by
  have hstart := (@builds_anchor .start rfl).1
  obtain ⟨lead, part, hlead, rfl, hboth⟩ := @builds_optional _ _ _ _ hfirst hsecond
    (Builder.start.push (.part (.place .textStart))) rfl
  have hend := (@builds_anchor (((Builder.start.push (.part (.place .textStart))).push
    (.part lead)).push (.part part)) rfl).2
  have hr := @ofText?_of_builds _ _ [.place .textStart, lead, part, .place .textEnd] r
    ((hstart.trans hboth).trans hend) rfl rfl h
  rw [hr, ← hlead]
  rfl

/-- An expression that is searched for as a whole text. -/
def anchored (middle : Regex) : Regex :=
  .sequence [.place .textStart, middle, .place .textEnd]

/-- Between anchors an expression leads from the start of a text to its end. -/
theorem runs_anchored (middle : Regex) (s t : Thread) :
    middle.anchored.Runs s t ↔ s.before = none ∧ t.ahead = [] ∧ middle.Runs s t := by
  simp only [anchored, Regex.sequence, Runs, Thread.isAt, Place.holds]
  constructor
  · rintro ⟨_, ⟨hstart, rfl⟩, _, hrun, hend, rfl⟩
    exact ⟨by simpa using hstart, by simpa using hend, hrun⟩
  · rintro ⟨hstart, hend, hrun⟩
    exact ⟨s, ⟨by simp [hstart], rfl⟩, t, hrun, by simp [hend], rfl⟩

/-- Whether an expression has just the texts of a set, and only as the whole of what is searched. -/
def SpellsWhole (r : Regex) (words : List Char → Prop) : Prop :=
  ∀ s t, r.Runs s t ↔
    s.before = none ∧ t.ahead = [] ∧ ∃ word, words word ∧ s.readWord word = some t

/-- Between anchors an expression spells whole texts. -/
theorem spellsWhole_anchored {middle : Regex} {words : List Char → Prop} (h : middle.Spells words) :
    (Regex.sequence [.place .textStart, middle, .place .textEnd]).SpellsWhole words := by
  intro s t
  rw [← h s t]
  exact runs_anchored middle s t

/-- Two expressions between anchors are as one. -/
theorem spellsWhole_pair {first second : Regex} {words : List Char → Prop}
    (h : (seq first second).Spells words) :
    (Regex.sequence [.place .textStart, first, second, .place .textEnd]).SpellsWhole words := by
  intro s t
  rw [← spellsWhole_anchored h s t]
  simp only [Regex.sequence, Runs]
  constructor
  · rintro ⟨u, hu, v, hv, w, hw, ht⟩
    exact ⟨u, hu, w, ⟨v, hv, hw⟩, ht⟩
  · rintro ⟨u, hu, w, ⟨v, hv, hw⟩, ht⟩
    exact ⟨u, hu, v, hv, w, hw, ht⟩

/-- An expression that spells whole texts is found in just these. -/
theorem SpellsWhole.search_isSome_iff {r : Regex} {words : List Char → Prop}
    (h : r.SpellsWhole words) (text : List Char) :
    ((Program.ofRegex r).search text).isSome ↔ words text := by
  rw [search_ofRegex_isSome_iff]
  constructor
  · rintro ⟨k, hle, t, hrun⟩
    obtain ⟨hbefore, hend, word, hword, hread⟩ := (h _ t).mp hrun
    obtain rfl := Thread.startAt_first hle hbefore
    obtain ⟨hahead, -⟩ := Thread.readWord_eq_some hread
    have htext : text = word := by simpa [Thread.startAt, Thread.start, hend] using hahead
    exact htext ▸ hword
  · intro hword
    obtain ⟨t, hread, hend⟩ := @Thread.exists_readWord text [] (.startAt text 0) (by
      simp [Thread.startAt, Thread.start])
    exact ⟨0, Nat.zero_le _, t, (h _ t).mpr ⟨rfl, hend, text, hword, hread⟩⟩

/-- A match of an expression that spells whole texts has no groups. -/
theorem SpellsWhole.groups_eq_nil {r : Regex} {words : List Char → Prop}
    (h : r.SpellsWhole words) {text : List Char} {m : RegexMatch}
    (hm : (Program.ofRegex r).search text = some m) : m.groups = [] := by
  obtain ⟨-, ⟨t, hsucceeds, -, hgroups⟩, -⟩ := Program.search_eq_some hm
  obtain ⟨-, -, word, -, hread⟩ := (h _ t).mp ((Program.succeeds_ofRegex r _ t).mp hsucceeds)
  rw [hgroups, (Thread.readWord_eq_some hread).2]
  rfl

end Regex

end CommandGrammar
