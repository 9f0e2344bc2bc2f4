import CommandGrammar.Matching.Analysis
import CommandGrammar.Proofs.TokenSequence

/-!
# Walks of a cursor

Matching moves a cursor by two steps only: it reads the next token with one of the separators of
the command, and it steps back over the token that was read last. A walk is a sequence of such
steps, listed by the tokens that were read and not stepped back over.

Every slot, every loop and the header go a walk from the cursor they are given. A walk never steps
back over what was read before it, so a name that called an option stays read, and what holds
along all walks holds of all runs. `Walk.shows` says what a walk does to the tokens of the input.
-/

namespace CommandGrammar

open Cursor (Shows)

/-- Whether a cursor shows tokens, all texts being split on one separator. -/
def Cursor.Valid (own : String) (c : Cursor) : Prop := ∃ past left, Shows own c past left

/-- A sound cursor shows tokens if all texts were split on one separator. -/
theorem Cursor.Sound.valid {own : String} {c : Cursor} (h : c.Sound) (howned : c.OwnedBy own) :
    c.Valid own := by
  obtain ⟨past, hshows⟩ := h.shows howned
  exact ⟨past, c.left, hshows⟩

/-- A walk from a cursor: a token is read with one of some separators, or the one read last is
stepped back over. The tokens that stay read are listed, the latest first. -/
inductive Walk (separators : List String) (start : Cursor) : List Token → Cursor → Prop
  /-- No step. -/
  | here : Walk separators start [] start
  /-- The next token is read. -/
  | read {past : List Token} {c next : Cursor} {separator : String} {token : Token}
      (walk : Walk separators start past c) (listed : separator ∈ separators)
      (fetch : c.fetch separator = some (token, next)) :
      Walk separators start (token :: past) next
  /-- The token read last is stepped back over. -/
  | back {past : List Token} {c : Cursor} {token : Token}
      (walk : Walk separators start (token :: past) c) :
      Walk separators start past (c.pushBack token)

namespace Walk

variable {separators : List String} {start c d : Cursor} {past : List Token}

/-- One walk after another is a walk. -/
theorem trans {more : List Token} (first : Walk separators start past c)
    (second : Walk separators c more d) : Walk separators start (more ++ past) d := by
  induction second with
  | here => exact first
  | read _ listed fetch ih => exact ih.read listed fetch
  | back _ ih => exact ih.back

/-- A walk may step back over several tokens, the one read last first. -/
theorem pushBackAll {tokens : List Token}
    (walk : Walk separators start (tokens.reverse ++ past) c) :
    Walk separators start past (c.pushBackAll tokens) := by
  induction tokens generalizing past with
  | nil => exact walk
  | cons token tokens ih =>
    rw [List.reverse_cons, List.append_assoc] at walk
    exact (ih walk).back

/-- More separators allow for more walks. -/
theorem mono {others : List String} (h : ∀ separator ∈ separators, separator ∈ others)
    (walk : Walk separators start past c) : Walk others start past c := by
  induction walk with
  | here => exact .here
  | read _ listed fetch ih => exact ih.read (h _ listed) fetch
  | back _ ih => exact ih.back

/-- Along a walk the tokens that were read are those in front of the mark. -/
theorem shows {own : String} {before left : List Token} (h : Shows own start before left)
    (walk : Walk separators start past c) : ∃ rest, Shows own c (past ++ before) rest := by
  induction walk with
  | here => exact ⟨left, h⟩
  | @read past c next separator token _ _ fetch ih =>
    obtain ⟨rest, hrest⟩ := ih
    cases rest with
    | nil => cases (hrest.fetch_nil separator).symm.trans fetch
    | cons first rest =>
      obtain ⟨found, hfetch, hfound⟩ := hrest.fetch separator
      cases hfetch.symm.trans fetch
      exact ⟨_, hfound⟩
  | back _ ih =>
    obtain ⟨rest, hrest⟩ := ih
    exact ⟨_, hrest.pushBack⟩

/-- A walk keeps to the texts that were split on one separator. -/
theorem valid {own : String} (h : start.Valid own) (walk : Walk separators start past c) :
    c.Valid own := by
  obtain ⟨before, left, h⟩ := h
  exact ⟨_, walk.shows h⟩

/-- With the separator of the texts alone a walk cuts no token: those read and those left are
always the same. -/
theorem shows_whole {own : String} {before left : List Token} (h : Shows own start before left)
    (hown : ∀ separator ∈ separators, separator = own) (walk : Walk separators start past c) :
    ∃ rest, Shows own c (past ++ before) rest ∧ past.reverse ++ rest = left := by
  induction walk with
  | here => exact ⟨left, h, rfl⟩
  | @read past c next separator token _ listed fetch ih =>
    obtain ⟨rest, hrest, htokens⟩ := ih
    rw [hown separator listed] at fetch
    cases rest with
    | nil => cases (hrest.fetch_nil own).symm.trans fetch
    | cons first rest =>
      obtain ⟨found, hfetch, hfound, -⟩ := hrest.fetch_self
      cases hfetch.symm.trans fetch
      exact ⟨rest, hfound, by rw [← htokens]; simp⟩
  | back _ ih =>
    obtain ⟨rest, hrest, htokens⟩ := ih
    exact ⟨_, hrest.pushBack, by rw [← htokens]; simp⟩

end Walk

section Slots

variable {separators : List String} (slot : Slot) (ctx : SlotContext) (c : Cursor)

/-- A slot for one token reads it, and steps back over what it does not take. -/
theorem walk_fillOne (hctx : ctx.separator ∈ separators) :
    ∃ past, Walk separators c past (slot.fillOne ctx c).1 := by
  rw [Slot.fillOne_cases]
  split
  · exact ⟨[], .here⟩
  · rename_i token next hfetch
    have hread : Walk separators c [token] next := Walk.here.read hctx hfetch
    split
    · exact ⟨[], hread.back⟩
    · split
      · exact ⟨[token], hread⟩
      · exact ⟨[], hread.back⟩

/-- A run reads the tokens it gathers. -/
theorem walk_gather {α : Type} (hctx : ctx.separator ∈ separators)
    (collect? : String → Option α) (budget : Nat) :
    Walk separators c ((gather ctx collect? budget c).items.map Prod.fst).reverse
      (gather ctx collect? budget c).last := by
  induction budget generalizing c with
  | zero =>
    unfold gather
    split
    · exact .here
    · rename_i hfetch
      exact (Walk.here.read hctx hfetch).back
  | succ budget ih =>
    unfold gather
    split
    · exact .here
    · rename_i token next hfetch
      have hread : Walk separators c [token] next := Walk.here.read hctx hfetch
      dsimp only
      split
      · exact hread.back
      · simpa using hread.trans (ih next)

/-- A run steps back over the tokens it gives to later slots. -/
theorem walk_gatherRun {α : Type} (hctx : ctx.separator ∈ separators)
    (collect? : String → Option α) : ∃ past, Walk separators c past (gatherRun ctx collect? c).1 := by
  unfold gatherRun
  split
  · exact ⟨[], .here⟩
  · rename_i next _
    dsimp only
    generalize next.remaining ctx.separator + 1 - ctx.laterRequired = budget
    have hgather := walk_gather ctx c hctx collect? budget
    unfold Gathered.settle
    dsimp only
    generalize (gather ctx collect? budget c).items.length - _ = kept
    rw [← List.take_append_drop kept (gather ctx collect? budget c).items, List.map_append,
      List.reverse_append] at hgather
    exact ⟨_, hgather.pushBackAll⟩

/-- All that is left is read token by token. -/
theorem walk_fetchAll {separator : String} (hseparator : separator ∈ separators) :
    Walk separators c (c.fetchAll separator).1.reverse (c.fetchAll separator).2 := by
  fun_induction Cursor.fetchAll separator c with
  | case1 c h => exact .here
  | case2 c token next h tokens last hlast ih =>
    rw [hlast] at ih
    simpa using (Walk.here.read hseparator h).trans ih

/-- Filling a slot is a walk. -/
theorem walk_slot_fill (hctx : ctx.separator ∈ separators) :
    ∃ past, Walk separators c past (slot.fill ctx c).1 := by
  unfold Slot.fill
  split
  · rename_i run _
    unfold Slot.fillRun
    split
    · exact walk_gatherRun ctx c hctx run.inner.capture?
    · exact walk_gatherRun ctx c hctx run.entry?
  · exact ⟨_, walk_fetchAll c hctx⟩
  · exact walk_fillOne slot ctx c hctx

end Slots

/-- Filling slots in order is a walk. -/
theorem walk_fillFrom {separators : List String} {separator : String}
    (hseparator : separator ∈ separators) (keywords : List String) (slots : List Slot) (c : Cursor)
    (values : SlotValues) :
    ∃ past, Walk separators c past
      (SlotList.fillFrom separator keywords slots c values).cursor := by
  induction slots generalizing c values with
  | nil => exact ⟨[], .here⟩
  | cons slot rest ih =>
    obtain ⟨past, hslot⟩ :=
      walk_slot_fill slot ⟨separator, keywords, rest.countP Slot.isRequired⟩ c hseparator
    rw [SlotList.fillFrom_cons]
    split <;> rename_i hfill <;> rw [hfill] at hslot
    · obtain ⟨more, hrest⟩ := ih _ _
      exact ⟨_, hslot.trans hrest⟩
    · obtain ⟨more, hrest⟩ := ih _ _
      exact ⟨_, hslot.trans hrest⟩
    · exact ⟨past, hslot⟩

/-- Filling a list of slots is a walk. -/
theorem walk_fill {separators : List String} (l : SlotList) {separator : String}
    (hseparator : separator ∈ separators) (keywords : List String) (c : Cursor) :
    ∃ past, Walk separators c past (l.fill separator keywords c).cursor := by
  unfold SlotList.fill
  split
  · exact ⟨[], .here⟩
  · exact walk_fillFrom hseparator keywords l.slots c .empty

/-- Stepping over the name of an entry is a walk. -/
theorem walk_stepOverName (e : Entry) (outer : String) (c : Cursor) :
    ∃ past, Walk [e.separatorOr outer] c past (e.stepOverName outer c) := by
  unfold Entry.stepOverName
  split
  · exact ⟨[], .here⟩
  · rename_i hfetch
    exact ⟨_, Walk.here.read List.mem_cons_self hfetch⟩

/-- Where a token can be seen, a called entry reads a token as its name and goes on from there. -/
theorem walk_entry_fill {separators : List String} (e : Entry) {outer seen : String}
    (hseparator : e.separatorOr outer ∈ separators) (keywords : List String) {c : Cursor}
    {token : Token} (h : c.peek seen = some token) :
    ∃ name next past, c.fetch (e.separatorOr outer) = some (name, next) ∧
      Walk separators next past (e.fill outer keywords c).cursor := by
  obtain ⟨name, next, hfetch⟩ := Cursor.exists_fetch_of_peek h (e.separatorOr outer)
  obtain ⟨past, hwalk⟩ := walk_fill e.args hseparator keywords next
  refine ⟨name, next, past, hfetch, ?_⟩
  simpa only [Entry.fill, Entry.stepOverName, hfetch] using hwalk

/-- What is called by the token that can be seen is a candidate, called by the text of the token. -/
theorem callee_of_seen {α : Type} {entry : α → Entry} {candidates : List α} {seen : Option Token}
    {item : α}
    (h : (seen.bind fun token => token.asText?.bind (callee? entry candidates)) = some item) :
    item ∈ candidates ∧
      ∃ text, seen = some (.text text) ∧ callee? entry candidates text = some item := by
  obtain ⟨token, hseen, hresolve⟩ := Option.bind_eq_some_iff.mp h
  obtain ⟨text, htext, hcallee⟩ := Option.bind_eq_some_iff.mp hresolve
  cases token with
  | unit u => cases htext
  | text found =>
    cases htext
    exact ⟨mem_of_callee hcallee, text, hseen, hcallee⟩

/-- A called option of a nested command is one of its options, called by the text that is seen. -/
theorem suboption_of_called {s : Subcommand} {separator : String} {c : Cursor} {e : Entry}
    (h : s.called? separator c = some e) :
    e ∈ s.options ∧ ∃ text, c.peek separator = some (.text text) ∧ s.resolve? text = some e :=
  @callee_of_seen _ id s.options (c.peek separator) e h

/-- What a command is called for is one of its members, called by the text that is seen. -/
theorem member_of_called {command : Command} {c : Cursor} {member : Member}
    (h : command.called? c = some member) :
    member ∈ command.config.members ∧ ∃ text, c.peek command.separator = some (.text text) ∧
      command.resolve? text = some member :=
  @callee_of_seen _ Member.entry command.members (c.peek command.separator) member h

/-- Filling an entry is a walk over its name and its slots. -/
theorem walk_entry {separators : List String} (e : Entry) {outer : String}
    (hlisted : e.separatorOr outer ∈ separators) (keywords : List String) (c : Cursor) :
    ∃ past, Walk separators c past (e.fill outer keywords c).cursor := by
  obtain ⟨past, hname⟩ := walk_stepOverName e outer c
  have hmore : ∀ separator ∈ [e.separatorOr outer], separator ∈ separators :=
    fun separator hseparator => List.mem_singleton.mp hseparator ▸ hlisted
  obtain ⟨more, hargs⟩ := walk_fill e.args hlisted keywords (e.stepOverName outer c)
  exact ⟨_, (hname.mono hmore).trans hargs⟩

/-- The separators that a nested command and its options read with. -/
def Subcommand.separators (s : Subcommand) (outer : String) : List String :=
  s.entry.separatorOr outer :: s.options.map (·.separatorOr (s.entry.separatorOr outer))

/-- The separators that a command reads with: its own, and those of its options and nested
commands. -/
def Command.separators (command : Command) : List String :=
  command.separator :: (command.config.options.map (·.separatorOr command.separator) ++
    command.config.subcommands.flatMap (·.separators command.separator))

/-- A command reads with the separators of its nested commands. -/
theorem mem_separators_of_subcommand {command : Command} {s : Subcommand}
    (hs : s ∈ command.config.subcommands) :
    ∀ separator ∈ s.separators command.separator, separator ∈ command.separators :=
  fun _ hmem => List.mem_cons_of_mem _
    (List.mem_append_right _ (List.mem_flatMap.mpr ⟨s, hs, hmem⟩))

/-- A called option of a nested command goes a walk from behind its name. -/
theorem walk_suboption {s : Subcommand} (outer : String) (keywords : List String) {c : Cursor}
    {e : Entry} (h : s.called? (s.entry.separatorOr outer) c = some e) :
    ∃ name next past, c.fetch (e.separatorOr (s.entry.separatorOr outer)) = some (name, next) ∧
      e.separatorOr (s.entry.separatorOr outer) ∈ s.separators outer ∧
      Walk (s.separators outer) next past
        (e.fill (s.entry.separatorOr outer) keywords c).cursor := by
  obtain ⟨hlisted, text, hpeek, -⟩ := suboption_of_called h
  have hseparator : e.separatorOr (s.entry.separatorOr outer) ∈ s.separators outer :=
    List.mem_cons_of_mem _ (List.mem_map_of_mem hlisted)
  obtain ⟨name, next, past, hfetch, hwalk⟩ := walk_entry_fill e hseparator keywords hpeek
  exact ⟨name, next, past, hfetch, hseparator, hwalk⟩

/-- The loop over the options of a nested command is a walk. -/
theorem walk_fillOptions (s : Subcommand) (outer : String) (keywords : List String) (c : Cursor)
    (options : NameMap SlotValues) :
    ∃ past, Walk (s.separators outer) c past
      (s.fillOptions (s.entry.separatorOr outer) keywords c options).cursor := by
  fun_induction Subcommand.fillOptions s (s.entry.separatorOr outer) keywords c options with
  | case1 => exact ⟨[], .here⟩
  | case2 c options e h =>
    obtain ⟨name, next, past, hfetch, hseparator, hwalk⟩ := walk_suboption outer keywords h
    exact ⟨_, (Walk.here.read hseparator hfetch).trans hwalk⟩
  | case3 c options e h _ _ _ ih =>
    obtain ⟨name, next, past, hfetch, hseparator, hwalk⟩ := walk_suboption outer keywords h
    obtain ⟨more, hrest⟩ := ih
    exact ⟨_, ((Walk.here.read hseparator hfetch).trans hwalk).trans hrest⟩

/-- Filling a called nested command is a walk. -/
theorem walk_subcommand_fill (s : Subcommand) (outer : String) (keywords : List String)
    {c : Cursor} {seen : String} {token : Token} (h : c.peek seen = some token) :
    ∃ name next past, c.fetch (s.entry.separatorOr outer) = some (name, next) ∧
      Walk (s.separators outer) next past (s.fill outer keywords c).cursor := by
  have hseparator : s.entry.separatorOr outer ∈ s.separators outer := List.mem_cons_self
  obtain ⟨name, next, past, hfetch, hwalk⟩ := walk_entry_fill s.entry hseparator keywords h
  unfold Subcommand.fill
  dsimp only
  split
  · exact ⟨name, next, past, hfetch, hwalk⟩
  · obtain ⟨more, hrest⟩ := walk_fillOptions s outer keywords (s.entry.fill outer keywords c).cursor
      .empty
    exact ⟨name, next, _, hfetch, hwalk.trans hrest⟩

section Command

variable {command : Command} (keywords : List String) {c : Cursor}

/-- A called option goes a walk with the separators of the command from behind its name. -/
theorem walk_option {e : Entry} (h : command.called? c = some (.option e)) :
    ∃ name next past, c.fetch (e.separatorOr command.separator) = some (name, next) ∧
      e.separatorOr command.separator ∈ command.separators ∧
      Walk command.separators next past (e.fill command.separator keywords c).cursor := by
  obtain ⟨hlisted, text, hpeek, -⟩ := member_of_called h
  have hoption : e ∈ command.config.options := CommandConfig.option_mem_members.mp hlisted
  have hseparator : e.separatorOr command.separator ∈ command.separators :=
    List.mem_cons_of_mem _ (List.mem_append_left _ (List.mem_map_of_mem hoption))
  obtain ⟨name, next, past, hfetch, hwalk⟩ := walk_entry_fill e hseparator keywords hpeek
  exact ⟨name, next, past, hfetch, hseparator, hwalk⟩

/-- A called nested command goes a walk with the separators of the command from behind its name. -/
theorem walk_subcommand {s : Subcommand} (h : command.called? c = some (.subcommand s)) :
    ∃ name next past, c.fetch (s.entry.separatorOr command.separator) = some (name, next) ∧
      s.entry.separatorOr command.separator ∈ command.separators ∧
      Walk command.separators next past (s.fill command.separator keywords c).cursor := by
  obtain ⟨hlisted, text, hpeek, -⟩ := member_of_called h
  have hsubcommand : s ∈ command.config.subcommands :=
    CommandConfig.subcommand_mem_members.mp hlisted
  have hseparators := mem_separators_of_subcommand hsubcommand
  obtain ⟨name, next, past, hfetch, hwalk⟩ :=
    walk_subcommand_fill s command.separator keywords hpeek
  exact ⟨name, next, past, hfetch, hseparators _ List.mem_cons_self, hwalk.mono hseparators⟩

/-- The loop over options and nested commands is a walk. -/
theorem walk_fillMembers (options : NameMap SlotValues) (subcommands : NameMap SubcommandValues) :
    ∃ past, Walk command.separators c past
      (command.fillMembers keywords c options subcommands).cursor := by
  fun_induction Command.fillMembers command keywords c options subcommands with
  | case1 => exact ⟨[], .here⟩
  | case2 c options subcommands e h =>
    obtain ⟨name, next, past, hfetch, hseparator, hwalk⟩ := walk_option keywords h
    exact ⟨_, (Walk.here.read hseparator hfetch).trans hwalk⟩
  | case3 c options subcommands e h _ _ _ ih =>
    obtain ⟨name, next, past, hfetch, hseparator, hwalk⟩ := walk_option keywords h
    obtain ⟨more, hrest⟩ := ih
    exact ⟨_, ((Walk.here.read hseparator hfetch).trans hwalk).trans hrest⟩
  | case4 c options subcommands s h =>
    obtain ⟨name, next, past, hfetch, hseparator, hwalk⟩ := walk_subcommand keywords h
    exact ⟨_, (Walk.here.read hseparator hfetch).trans hwalk⟩
  | case5 c options subcommands s h _ _ _ ih =>
    obtain ⟨name, next, past, hfetch, hseparator, hwalk⟩ := walk_subcommand keywords h
    obtain ⟨more, hrest⟩ := ih
    exact ⟨_, ((Walk.here.read hseparator hfetch).trans hwalk).trans hrest⟩

/-- A header that matches reads its tokens. -/
theorem walk_read {separators : List String} {separator : String}
    (hseparator : separator ∈ separators) {header : Header} {value : Value} {next : Cursor}
    (h : header.read separator c = .ok (value, next)) :
    ∃ token past, Walk separators c (token :: past) next := by
  unfold Header.read at h
  split at h
  · cases h
  · rename_i first after hfirst
    have hread : Walk separators c [first] after := Walk.here.read hseparator hfirst
    split at h
    · split at h
      · split at h
        · cases h
        · rename_i name last hname
          split at h
          · cases h
            exact ⟨name, [first], hread.read hseparator hname⟩
          · cases h
      · cases h
    · split at h
      · cases h
        exact ⟨first, [], hread⟩
      · cases h

end Command

end CommandGrammar
