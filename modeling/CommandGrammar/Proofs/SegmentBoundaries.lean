import CommandGrammar.Matching.Analysis
import CommandGrammar.Proofs.PlainTexts
import CommandGrammar.Proofs.TokenSequence

/-!
# Segment boundaries cannot be observed

A chain of texts and the one text they make when glued by a separator character are cut into
different segments but hold the same tokens. Two cursors that show the same tokens with the mark
at the same place are twins: every step of matching does the same to both and leaves twins
again, also where a token is cut by the separator of an option. So both inputs give the same
result, and remainders that are the same once they are split again.
-/

namespace CommandGrammar

open Cursor (Shows readToken)

/-- Whether a token is a unit or a single piece of text. -/
def Token.IsPlain (separator : String) : Token → Prop
  | text piece => PlainPiece separator piece
  | unit _ => True

/-- Two cursors that show the same tokens with the mark at the same place. All texts are single
pieces. -/
structure Twins (own : String) (past left : List Token) (c d : Cursor) : Prop where
  /-- What the first cursor shows. -/
  first : Shows own c past left
  /-- The second shows the same. -/
  second : Shows own d past left
  /-- No text can be split further. -/
  plain : ∀ token ∈ past ++ left, token.IsPlain own

/-- Whether two cursors are twins anywhere in a sequence of tokens. -/
def Alike (own : String) (c d : Cursor) : Prop := ∃ past left, Twins own past left c d

/-- Whether two steps led to twins and gave the same. -/
def SameStep {α : Type} (own : String) (r s : Cursor × α) : Prop := Alike own r.1 s.1 ∧ r.2 = s.2

/-- Both parts of a piece that is cut are single pieces. -/
theorem readToken_isPlain {own : String} {token : Token} (h : token.IsPlain own)
    (separator : String) :
    (readToken own separator token).1.IsPlain own ∧
      ∀ part ∈ (readToken own separator token).2, part.IsPlain own := by
  cases token with
  | unit u => exact ⟨trivial, fun part hpart => by cases hpart⟩
  | text piece =>
    obtain ⟨hne, hplain⟩ := h
    have hcut : ((Cursor.readPiece piece own separator) = (piece, "")) ∨
        (Cursor.readPiece piece own separator = splitOnce piece separator ∧
          (splitOnce piece separator).1 ≠ "") := by
      unfold Cursor.readPiece recut?
      split
      · exact .inl rfl
      · split
        · by_cases hhead : (splitOnce piece separator).1 = ""
          · exact .inl (by simp [hhead])
          · exact .inr (by simp [hhead])
        · exact .inl rfl
    simp only [readToken]
    rcases hcut with hcut | ⟨hcut, hhead⟩ <;> rw [hcut]
    · exact ⟨⟨hne, hplain⟩, fun part hpart => by simp at hpart⟩
    · refine ⟨⟨hhead, fun c hc => hplain c (mem_splitOnce (.inl hc))⟩, fun part hpart => ?_⟩
      split at hpart
      · cases hpart
      · rename_i hrest
        cases List.mem_singleton.mp hpart
        exact ⟨hrest, fun c hc => hplain c (mem_splitOnce (.inr hc))⟩

/-- Reading leads twins to twins. -/
theorem Twins.fetch {own : String} {past left : List Token} {c d : Cursor}
    (h : Twins own past left c d) (separator : String) :
    (c.fetch separator = none ∧ d.fetch separator = none) ∨
      ∃ token rest next next', c.fetch separator = some (token, next) ∧
        d.fetch separator = some (token, next') ∧ Twins own (token :: past) rest next next' := by
  cases left with
  | nil => exact .inl ⟨h.first.fetch_nil separator, h.second.fetch_nil separator⟩
  | cons token left =>
    obtain ⟨next, hc, hnext⟩ := h.first.fetch separator
    obtain ⟨next', hd, hnext'⟩ := h.second.fetch separator
    obtain ⟨hhead, hparts⟩ :=
      readToken_isPlain (h.plain token (by simp)) separator
    refine .inr ⟨_, _, next, next', hc, hd, hnext, hnext', fun t ht => ?_⟩
    have hplain := h.plain t
    simp only [List.cons_append, List.mem_cons, List.mem_append] at ht hplain
    rcases ht with rfl | ht | ht | ht
    · exact hhead
    · exact hplain (.inl ht)
    · exact hparts t ht
    · exact hplain (.inr (.inr ht))

/-- Stepping back leads twins to twins. -/
theorem Twins.pushBackAll {own : String} {past left tokens : List Token} {c d : Cursor}
    (h : Twins own (tokens.reverse ++ past) left c d) :
    Twins own past (tokens ++ left) (c.pushBackAll tokens) (d.pushBackAll tokens) := by
  refine ⟨h.first.pushBackAll, h.second.pushBackAll, fun token htoken => h.plain token ?_⟩
  simp only [List.mem_append, List.mem_reverse] at htoken ⊢
  rcases htoken with h | h | h
  · exact .inl (.inr h)
  · exact .inl (.inl h)
  · exact .inr h

/-- Stepping back over one token leads twins to twins. -/
theorem Twins.pushBack {own : String} {past left : List Token} {token : Token} {c d : Cursor}
    (h : Twins own (token :: past) left c d) :
    Twins own past (token :: left) (c.pushBack token) (d.pushBack token) :=
  @Twins.pushBackAll own past left [token] c d h

/-- Twins see the same token. -/
theorem Alike.peek {own : String} {c d : Cursor} (h : Alike own c d) (separator : String) :
    c.peek separator = d.peek separator := by
  obtain ⟨past, left, h⟩ := h
  rw [h.first.peek, h.second.peek]

/-- A slot for one token does the same to twins. -/
theorem sameStep_fillOne (slot : Slot) (ctx : SlotContext) {own : String} {c d : Cursor}
    (h : Alike own c d) : SameStep own (slot.fillOne ctx c) (slot.fillOne ctx d) := by
  obtain ⟨past, left, h⟩ := h
  rw [Slot.fillOne_cases, Slot.fillOne_cases]
  rcases h.fetch ctx.separator with ⟨hc, hd⟩ | ⟨token, rest, next, next', hc, hd, hnext⟩
  · rw [hc, hd]
    exact ⟨⟨past, left, h⟩, rfl⟩
  · rw [hc, hd]
    dsimp only
    split
    · exact ⟨⟨_, _, hnext.pushBack⟩, rfl⟩
    · split
      · exact ⟨⟨_, _, hnext⟩, rfl⟩
      · exact ⟨⟨_, _, hnext.pushBack⟩, rfl⟩

/-- Gathering takes the same from twins. -/
theorem twins_gather {α : Type} (ctx : SlotContext) (collect? : String → Option α) {own : String}
    (budget : Nat) {past left : List Token} {c d : Cursor} (h : Twins own past left c d) :
    let r := gather ctx collect? budget c
    let s := gather ctx collect? budget d
    r.items = s.items ∧ r.stopped = s.stopped ∧
      ∃ rest, Twins own ((r.items.map Prod.fst).reverse ++ past) rest r.last s.last := by
  induction budget generalizing past left c d with
  | zero =>
    unfold gather
    rcases h.fetch ctx.separator with ⟨hc, hd⟩ | ⟨token, rest, next, next', hc, hd, hnext⟩
    · rw [hc, hd]
      exact ⟨rfl, rfl, _, h⟩
    · rw [hc, hd]
      exact ⟨rfl, rfl, _, hnext.pushBack⟩
  | succ budget ih =>
    unfold gather
    rcases h.fetch ctx.separator with ⟨hc, hd⟩ | ⟨token, rest, next, next', hc, hd, hnext⟩
    · rw [hc, hd]
      exact ⟨rfl, rfl, _, h⟩
    · rw [hc, hd]
      dsimp only
      split
      · exact ⟨rfl, rfl, _, hnext.pushBack⟩
      · obtain ⟨hitems, hstopped, rest, hlast⟩ := ih hnext
        refine ⟨by rw [hitems], hstopped, rest, ?_⟩
        simpa using hlast

/-- What a run keeps is the same for twins. -/
theorem sameStep_gatherRun {α : Type} (ctx : SlotContext) (collect? : String → Option α)
    {own : String} {c d : Cursor} (h : Alike own c d) :
    SameStep own (gatherRun ctx collect? c) (gatherRun ctx collect? d) := by
  obtain ⟨past, left, h⟩ := h
  unfold gatherRun
  rcases h.fetch ctx.separator with ⟨hc, hd⟩ | ⟨token, rest, next, next', hc, hd, hnext⟩
  · rw [hc, hd]
    exact ⟨⟨past, left, h⟩, rfl⟩
  · rw [hc, hd]
    dsimp only
    rw [hnext.first.remaining, hnext.second.remaining]
    generalize sumOf (rest.map _) + 1 - ctx.laterRequired = budget
    obtain ⟨hitems, hstopped, rest, hlast⟩ := twins_gather ctx collect? budget h
    unfold Gathered.settle
    dsimp only
    rw [← hitems, ← hstopped]
    generalize (gather ctx collect? budget c).items.length - _ = kept
    refine ⟨?_, rfl⟩
    rw [← List.take_append_drop kept (gather ctx collect? budget c).items, List.map_append,
      List.reverse_append, List.append_assoc] at hlast
    exact ⟨_, _, hlast.pushBackAll⟩

/-- All that is left is the same for twins. -/
theorem alike_fetchAll (separator : String) {own : String} {c d : Cursor} (h : Alike own c d) :
    (c.fetchAll separator).1 = (d.fetchAll separator).1 ∧
      Alike own (c.fetchAll separator).2 (d.fetchAll separator).2 := by
  fun_induction Cursor.fetchAll separator c generalizing d with
  | case1 c hnone =>
    obtain ⟨past, left, h⟩ := h
    rcases h.fetch separator with ⟨-, hd⟩ | ⟨_, _, _, _, hc, -⟩
    · rw [Cursor.fetchAll_of_none hd]
      exact ⟨rfl, past, left, h⟩
    · cases hnone.symm.trans hc
  | case2 c token next hsome tokens last hlast ih =>
    obtain ⟨past, left, h⟩ := h
    rcases h.fetch separator with ⟨hc, -⟩ | ⟨_, _, _, next', hc, hd, hnext⟩
    · cases hsome.symm.trans hc
    · cases hsome.symm.trans hc
      obtain ⟨htokens, hrest⟩ := ih ⟨_, _, hnext⟩
      rw [hlast] at htokens hrest
      rw [Cursor.fetchAll_of_some hd]
      exact ⟨congrArg (token :: ·) htokens, hrest⟩

/-- A slot does the same to twins. -/
theorem sameStep_fill (slot : Slot) (ctx : SlotContext) {own : String} {c d : Cursor}
    (h : Alike own c d) : SameStep own (slot.fill ctx c) (slot.fill ctx d) := by
  unfold Slot.fill
  split
  · rename_i run _
    unfold Slot.fillRun
    split
    · obtain ⟨hcursor, hvalues⟩ := sameStep_gatherRun ctx run.inner.capture? h
      exact ⟨hcursor, by dsimp only; rw [hvalues]⟩
    · obtain ⟨hcursor, hentries⟩ := sameStep_gatherRun ctx run.entry? h
      exact ⟨hcursor, by dsimp only; rw [hentries]⟩
  · obtain ⟨htokens, hcursor⟩ := alike_fetchAll ctx.separator h
    exact ⟨hcursor, by dsimp only [Slot.fillRest]; rw [htokens]⟩
  · exact sameStep_fillOne slot ctx h

/-- Whether slots of two cursors were filled alike. -/
structure SameFilling (own : String) (f g : Filling) : Prop where
  /-- The cursors are twins. -/
  cursor : Alike own f.cursor g.cursor
  /-- The values are the same. -/
  values : f.values = g.values
  /-- The fault is the same. -/
  fault : f.fault = g.fault

/-- Filling slots in order does the same to twins. -/
theorem sameFilling_fillFrom (separator : String) (keywords : List String) (slots : List Slot)
    {own : String} {c d : Cursor} (h : Alike own c d) (values : SlotValues) :
    SameFilling own (SlotList.fillFrom separator keywords slots c values)
      (SlotList.fillFrom separator keywords slots d values) := by
  induction slots generalizing c d values with
  | nil => exact ⟨h, rfl, rfl⟩
  | cons slot rest ih =>
    obtain ⟨hcursor, houtcome⟩ :=
      sameStep_fill slot ⟨separator, keywords, rest.countP Slot.isRequired⟩ h
    rw [SlotList.fillFrom_cons, SlotList.fillFrom_cons]
    generalize slot.fill _ c = r at *
    generalize slot.fill _ d = s at *
    obtain ⟨next, outcome⟩ := r
    obtain ⟨next', outcome'⟩ := s
    cases houtcome
    cases outcome with
    | filled value => exact ih hcursor _
    | empty => exact ih hcursor _
    | failed fault => exact ⟨hcursor, rfl, rfl⟩

/-- Filling a list of slots does the same to twins. -/
theorem sameFilling_fill (l : SlotList) (separator : String) (keywords : List String)
    {own : String} {c d : Cursor} (h : Alike own c d) :
    SameFilling own (l.fill separator keywords c) (l.fill separator keywords d) := by
  have hexhausted : c.isExhausted = d.isExhausted := by
    obtain ⟨past, left, h⟩ := h
    rw [h.first.isExhausted, h.second.isExhausted]
  unfold SlotList.fill
  rw [← hexhausted]
  split
  · exact ⟨h, rfl, rfl⟩
  · exact sameFilling_fillFrom separator keywords l.slots h .empty

/-- Filling a called entry does the same to twins. -/
theorem sameFilling_entry (e : Entry) (outer : String) (keywords : List String) {own : String}
    {c d : Cursor} (h : Alike own c d) :
    SameFilling own (e.fill outer keywords c) (e.fill outer keywords d) := by
  refine sameFilling_fill e.args _ keywords ?_
  obtain ⟨past, left, h⟩ := h
  unfold Entry.stepOverName
  rcases h.fetch (e.separatorOr outer) with ⟨hc, hd⟩ | ⟨_, _, _, _, hc, hd, hnext⟩
  · rw [hc, hd]
    exact ⟨past, left, h⟩
  · rw [hc, hd]
    exact ⟨_, _, hnext⟩

/-- The loop over options does the same to twins. -/
theorem same_fillOptions (s : Subcommand) (separator : String) (keywords : List String)
    {own : String} {c d : Cursor} (h : Alike own c d) (options : NameMap SlotValues) :
    Alike own (s.fillOptions separator keywords c options).cursor
        (s.fillOptions separator keywords d options).cursor ∧
      (s.fillOptions separator keywords c options).options =
        (s.fillOptions separator keywords d options).options ∧
      (s.fillOptions separator keywords c options).fault =
        (s.fillOptions separator keywords d options).fault := by
  have hcalled : s.called? separator c = s.called? separator d := by
    rw [Subcommand.called?, h.peek]; rfl
  fun_induction Subcommand.fillOptions s separator keywords c options generalizing d with
  | case1 c options hend =>
    rw [fillOptions_end (hcalled.symm.trans hend)]
    exact ⟨h, rfl, rfl⟩
  | case2 c options e hoption filling inserted fault =>
    rename_i hfault
    obtain ⟨hcursor, hvalues, hlate⟩ := sameFilling_entry e separator keywords h
    rw [fillOptions_called (hcalled.symm.trans hoption)]
    dsimp only
    rw [← hlate, hfault, ← hvalues]
    exact ⟨hcursor, rfl, rfl⟩
  | case3 c options e hoption filling inserted hfault =>
    rename_i ih
    obtain ⟨hcursor, hvalues, hlate⟩ := sameFilling_entry e separator keywords h
    rw [fillOptions_called (hcalled.symm.trans hoption)]
    dsimp only
    rw [← hlate, hfault, ← hvalues]
    exact ih hcursor (by rw [Subcommand.called?, hcursor.peek]; rfl)

/-- Filling a nested command does the same to twins. -/
theorem same_subcommand (s : Subcommand) (outer : String) (keywords : List String) {own : String}
    {c d : Cursor} (h : Alike own c d) :
    Alike own (s.fill outer keywords c).cursor (s.fill outer keywords d).cursor ∧
      (s.fill outer keywords c).values = (s.fill outer keywords d).values ∧
      (s.fill outer keywords c).fault = (s.fill outer keywords d).fault := by
  obtain ⟨hcursor, hvalues, hfault⟩ := sameFilling_entry s.entry outer keywords h
  unfold Subcommand.fill
  dsimp only
  rw [← hfault, ← hvalues]
  split
  · exact ⟨hcursor, rfl, rfl⟩
  · obtain ⟨hlast, hoptions, hlate⟩ :=
      same_fillOptions s (s.entry.separatorOr outer) keywords hcursor .empty
    exact ⟨hlast, by rw [hoptions], hlate⟩

/-- Whether options and nested commands of two cursors were filled alike. -/
structure SameMembers (own : String) (f g : MemberFilling) : Prop where
  /-- The cursors are twins. -/
  cursor : Alike own f.cursor g.cursor
  /-- The values of options are the same. -/
  options : f.options = g.options
  /-- The values of nested commands are the same. -/
  subcommands : f.subcommands = g.subcommands
  /-- The fault is the same. -/
  fault : f.fault = g.fault

/-- The loop over options and nested commands does the same to twins. -/
theorem same_fillMembers (command : Command) (keywords : List String) {own : String}
    {c d : Cursor} (h : Alike own c d) (options : NameMap SlotValues)
    (subcommands : NameMap SubcommandValues) :
    SameMembers own (command.fillMembers keywords c options subcommands)
      (command.fillMembers keywords d options subcommands) := by
  have hcalled : command.called? c = command.called? d := by
    rw [Command.called?, h.peek]; rfl
  fun_induction Command.fillMembers command keywords c options subcommands generalizing d with
  | case1 c options subcommands hend =>
    rw [fillMembers_end (hcalled.symm.trans hend)]
    exact ⟨h, rfl, rfl, rfl⟩
  | case2 c options subcommands e hoption filling inserted fault =>
    rename_i hfault
    obtain ⟨hcursor, hvalues, hlate⟩ := sameFilling_entry e command.separator keywords h
    rw [fillMembers_option (hcalled.symm.trans hoption)]
    dsimp only
    rw [← hlate, hfault, ← hvalues]
    exact ⟨hcursor, rfl, rfl, rfl⟩
  | case3 c options subcommands e hoption filling inserted hfault =>
    rename_i ih
    obtain ⟨hcursor, hvalues, hlate⟩ := sameFilling_entry e command.separator keywords h
    rw [fillMembers_option (hcalled.symm.trans hoption)]
    dsimp only
    rw [← hlate, hfault, ← hvalues]
    exact ih hcursor (by rw [Command.called?, hcursor.peek]; rfl)
  | case4 c options subcommands s hsubcommand filling inserted fault =>
    rename_i hfault
    obtain ⟨hcursor, hvalues, hlate⟩ := same_subcommand s command.separator keywords h
    rw [fillMembers_subcommand (hcalled.symm.trans hsubcommand)]
    dsimp only
    rw [← hlate, hfault, ← hvalues]
    exact ⟨hcursor, rfl, rfl, rfl⟩
  | case5 c options subcommands s hsubcommand filling inserted hfault =>
    rename_i ih
    obtain ⟨hcursor, hvalues, hlate⟩ := same_subcommand s command.separator keywords h
    rw [fillMembers_subcommand (hcalled.symm.trans hsubcommand)]
    dsimp only
    rw [← hlate, hfault, ← hvalues]
    exact ih hcursor (by rw [Command.called?, hcursor.peek]; rfl)

/-- Tokens with each text split on a separator. -/
def splitTokens (separator : String) (tokens : List Token) : List Token :=
  tokens.flatMap fun
    | .text text => (split text separator).map .text
    | .unit u => [.unit u]

/-- What two results have in common when they differ in segments only: all but how the texts of
the remainder are cut. -/
structure MatchResult.SameUpTo (separator : String) (r s : MatchResult) : Prop where
  /-- One matches when the other does. -/
  matched : r.matched = s.matched
  /-- The header has the same value. -/
  header : r.header = s.header
  /-- The slots after the header have the same values. -/
  mainArgs : r.mainArgs = s.mainArgs
  /-- The options have the same values. -/
  options : r.options = s.options
  /-- The nested commands have the same values. -/
  subcommands : r.subcommands = s.subcommands
  /-- The fault is the same. -/
  fault : r.fault = s.fault
  /-- The remainders list the same tokens. -/
  remainder : splitTokens separator r.remainder = splitTokens separator s.remainder
  /-- So do those of the errors. -/
  errors : r.error?.map (fun error => splitTokens separator error.remainder) =
    s.error?.map fun error => splitTokens separator error.remainder

/-- What is concluded from the same parts has all in common but how texts are cut. -/
theorem MatchResult.sameUpTo_conclude {separator : String} {remainder other : List Token}
    (h : splitTokens separator remainder = splitTokens separator other) (header : Value)
    (mainArgs : SlotValues) (options : NameMap SlotValues)
    (subcommands : NameMap SubcommandValues) (fault : Option MatchFault) :
    (conclude header mainArgs options subcommands remainder fault).SameUpTo separator
      (conclude header mainArgs options subcommands other fault) := by
  cases fault with
  | none => exact ⟨rfl, rfl, rfl, rfl, rfl, rfl, h, rfl⟩
  | some fault => exact ⟨rfl, rfl, rfl, rfl, rfl, rfl, h, congrArg some h⟩

/-- What two answers have in common when they differ in segments only. -/
def SameAnswer (separator : String) : Except MatchError MatchResult →
    Except MatchError MatchResult → Prop
  | .ok r, .ok s => r.SameUpTo separator s
  | .error e, .error f => e.fault = f.fault ∧
      splitTokens separator e.remainder = splitTokens separator f.remainder
  | _, _ => False

/-- What is not consumed, split again, lists the tokens left. -/
theorem splitTokens_rest {own : String} {c : Cursor} {past left : List Token} (hown : own ≠ "")
    (h : Shows own c past left) (hplain : ∀ token ∈ past ++ left, token.IsPlain own) :
    splitTokens own c.rest = left := by
  have hpieces : ∀ token ∈ c.left, token.IsPlain own := by
    rw [h.left_eq]
    exact fun token htoken => hplain token (List.mem_append_right _ htoken)
  have howned := Cursor.ownedBy_ahead h.owned
  rw [← h.left_eq]
  unfold Cursor.left at hpieces ⊢
  unfold Cursor.rest
  clear h hplain
  generalize c.ahead = ahead at hpieces howned
  induction ahead with
  | nil => rfl
  | cons s rest ih =>
    rw [List.flatMap_cons] at hpieces
    have hrest := ih (fun token htoken => hpieces token (List.mem_append_right _ htoken))
      fun t ht => howned t (List.mem_cons_of_mem _ ht)
    unfold splitTokens at hrest ⊢
    rw [List.map_cons, List.flatMap_cons, List.flatMap_cons, hrest]
    congr 1
    cases s with
    | unit u => rfl
    | text pieces separator =>
      have hseparator : separator = own := howned _ List.mem_cons_self
      subst hseparator
      simp only [Segment.rejoin, Segment.tokens]
      rw [show String.ofList (separator.toList.take 1) = glue separator from rfl,
        split_intercalate_pieces hown]
      intro piece hpiece
      exact hpieces (.text piece) (List.mem_append_left _ (List.mem_map_of_mem hpiece))

/-- Reading the header does the same to twins. -/
theorem same_read (header : Header) (separator : String) {own : String} {c d : Cursor}
    (h : Alike own c d) :
    (∃ found c' d', header.read separator c = .error (found, c') ∧
      header.read separator d = .error (found, d') ∧ Alike own c' d') ∨
    (∃ value c' d', header.read separator c = .ok (value, c') ∧
      header.read separator d = .ok (value, d') ∧ Alike own c' d') := by
  obtain ⟨past, left, h⟩ := h
  unfold Header.read
  rcases h.fetch separator with ⟨hc, hd⟩ | ⟨first, rest, next, next', hc, hd, hnext⟩
  · rw [hc, hd]
    exact .inl ⟨_, _, _, rfl, rfl, past, left, h⟩
  · rw [hc, hd]
    dsimp only
    have hback := hnext.pushBack
    split
    · split
      · rcases hnext.fetch separator with ⟨hc, hd⟩ | ⟨name, rest, last, last', hc, hd, hlast⟩
        · rw [hc, hd]
          exact .inl ⟨_, _, _, rfl, rfl, _, _, hback⟩
        · rw [hc, hd]
          dsimp only
          split
          · exact .inr ⟨_, _, _, rfl, rfl, _, _, hlast⟩
          · exact .inl ⟨_, _, _, rfl, rfl, _, _, hlast.pushBack.pushBack⟩
      · exact .inl ⟨_, _, _, rfl, rfl, _, _, hback⟩
    · split
      · exact .inr ⟨_, _, _, rfl, rfl, _, _, hnext⟩
      · exact .inl ⟨_, _, _, rfl, rfl, _, _, hback⟩

/-- What twins did not consume lists the same tokens. -/
theorem Alike.splitTokens_rest {own : String} {c d : Cursor} (hown : own ≠ "")
    (h : Alike own c d) : splitTokens own c.rest = splitTokens own d.rest := by
  obtain ⟨past, left, h⟩ := h
  rw [CommandGrammar.splitTokens_rest hown h.first h.plain,
    CommandGrammar.splitTokens_rest hown h.second h.plain]

/-- What follows the header gives the same for twins. -/
theorem sameUpTo_runBody (command : Command) (header : Value) {c d : Cursor}
    (h : Alike command.separator c d) :
    (command.runBody header c).SameUpTo command.separator (command.runBody header d) := by
  obtain ⟨hcursor, hvalues, hfault⟩ :=
    sameFilling_fill command.config.args command.separator command.keywords h
  unfold Command.runBody
  dsimp only
  rw [← hfault, ← hvalues]
  split
  · exact MatchResult.sameUpTo_conclude (hcursor.splitTokens_rest command.separates) ..
  · obtain ⟨hlast, hoptions, hsubcommands, hlate⟩ :=
      same_fillMembers command command.keywords hcursor .empty .empty
    rw [← hoptions, ← hsubcommands, ← hlate]
    exact MatchResult.sameUpTo_conclude (hlast.splitTokens_rest command.separates) ..

/-- Matching tokens gives the same for twins. -/
theorem sameUpTo_runTokens (command : Command) {c d : Cursor}
    (h : Alike command.separator c d) :
    (command.runTokens c).SameUpTo command.separator (command.runTokens d) := by
  unfold Command.runTokens
  rcases same_read command.header command.separator h with
    ⟨found, c', d', hc, hd, hback⟩ | ⟨value, c', d', hc, hd, hnext⟩
  · rw [hc, hd]
    exact MatchResult.sameUpTo_conclude (hback.splitTokens_rest command.separates) ..
  · rw [hc, hd]
    exact sameUpTo_runBody command value hnext

/-- Where no segment is empty, there is a token when there is a segment. -/
theorem isEmpty_segments {segments : List Segment} (h : ∀ s ∈ segments, s.size ≠ 0) :
    segments.isEmpty = (segments.flatMap Segment.tokens).isEmpty := by
  cases segments with
  | nil => rfl
  | cons s rest =>
    have hsize := h s List.mem_cons_self
    rw [← Segment.length_tokens] at hsize
    have hne : s.tokens ≠ [] := fun hnil => hsize (by rw [hnil]; rfl)
    simp [hne]

/-- Inputs with the same tokens are both empty, or start with twins. -/
theorem tokenize_alike {input other : Input} {separator : String} {excluded : List String}
    {refuse : Bool} {segments segments' : List Segment}
    (hinput : Cursor.inputSegments separator excluded refuse input = .ok segments)
    (hother : Cursor.inputSegments separator excluded refuse other = .ok segments')
    (htokens : segments.flatMap Segment.tokens = segments'.flatMap Segment.tokens)
    (hplain : ∀ token ∈ segments.flatMap Segment.tokens, token.IsPlain separator) :
    (Cursor.tokenize input separator excluded refuse = .error .emptyInput ∧
      Cursor.tokenize other separator excluded refuse = .error .emptyInput) ∨
    ∃ c d, Cursor.tokenize input separator excluded refuse = .ok c ∧
      Cursor.tokenize other separator excluded refuse = .ok d ∧ Alike separator c d := by
  have hsound := Cursor.inputSegments_sound hinput
  have hsound' := Cursor.inputSegments_sound hother
  have hshows := Cursor.shows_ofSegments (fun s hs => (hsound s hs).1) fun s hs => (hsound s hs).2
  have hshows' := Cursor.shows_ofSegments (fun s hs => (hsound' s hs).1)
    fun s hs => (hsound' s hs).2
  have hboth : segments'.isEmpty = segments.isEmpty := by
    rw [isEmpty_segments fun s hs => (hsound' s hs).2, isEmpty_segments fun s hs => (hsound s hs).2,
      htokens]
  unfold Cursor.tokenize
  rw [hinput, hother]
  dsimp only
  rw [hboth]
  split
  · exact .inl ⟨rfl, rfl⟩
  · exact .inr ⟨_, _, rfl, rfl, [], _, hshows, htokens ▸ hshows', by simpa using hplain⟩

/-- The segments of a chain of texts hold the pieces of each text. -/
theorem chainSegments_texts (separator : String) (excluded : List String) (refuse : Bool)
    {texts : List String} (hblank : ∀ text ∈ texts, startsBlank text = false) :
    ∃ segments, Cursor.chainSegments separator excluded refuse (texts.map .text) = .ok segments ∧
      segments.flatMap Segment.tokens =
        (texts.flatMap fun text => split text separator).map .text := by
  induction texts with
  | nil => exact ⟨[], rfl, rfl⟩
  | cons text rest ih =>
    obtain ⟨others, hothers, htokens⟩ := ih fun t ht => hblank t (List.mem_cons_of_mem _ ht)
    refine ⟨(Cursor.textSegment? text separator).toList ++ others, ?_, ?_⟩
    · rw [List.map_cons, Cursor.chainSegments, hothers]
      rfl
    · rw [List.flatMap_append, Cursor.textSegment?_tokens, htokens,
        trimFront_eq_self (hblank text List.mem_cons_self), List.flatMap_cons, List.map_append]

/-- A chain of texts without quotes that do not start blank, and the one text they make when
they are glued by the first separator character, give the same. -/
theorem run_glued (command : Command) {texts : List String}
    (hquote : ∀ text ∈ texts, ∀ c ∈ text.toList, isQuote c = false)
    (hblank : ∀ text ∈ texts, startsBlank text = false) :
    let chain := Input.chain (texts.map .text)
    let glued := Input.text ((glue command.separator).intercalate texts)
    (command.run chain).SameUpTo command.separator (command.run glued) ∧
      SameAnswer command.separator (command.analyse chain) (command.analyse glued) := by
  intro chain glued
  have hsep : command.separator ≠ "" := command.separates
  have hunquoted : ∀ text ∈ texts, Unquoted command.separator.toList text.toList :=
    fun text htext c hc hq => by simp [hquote text htext c hc] at hq
  obtain ⟨segments, hchain, htokens⟩ := chainSegments_texts command.separator
    command.config.excluded command.config.raises hblank
  have hrun : (command.run chain).SameUpTo command.separator (command.run glued) := by
    have hglued : (Cursor.textSegment? ((glue command.separator).intercalate texts)
        command.separator).toList.flatMap Segment.tokens = segments.flatMap Segment.tokens := by
      rw [Cursor.textSegment?_tokens, split_trimFront_intercalate hsep hblank,
        split_intercalate hsep hunquoted, htokens]
    have hplain : ∀ token ∈ segments.flatMap Segment.tokens, token.IsPlain command.separator := by
      intro token htoken
      rw [htokens] at htoken
      obtain ⟨piece, hpiece, rfl⟩ := List.mem_map.mp htoken
      obtain ⟨text, htext, hpiece⟩ := List.mem_flatMap.mp hpiece
      exact plainPiece_of_mem_split (hunquoted text htext) hpiece
    unfold Command.run
    rcases @tokenize_alike chain glued _ _ _ _ _ hchain rfl hglued.symm hplain with
      ⟨hc, hd⟩ | ⟨c, d, hc, hd, h⟩
    · rw [hc, hd]
      exact MatchResult.sameUpTo_conclude rfl ..
    · rw [hc, hd]
      exact sameUpTo_runTokens command h
  refine ⟨hrun, ?_⟩
  unfold Command.analyse
  dsimp only
  rw [(command.run_agrees chain).error_eq, (command.run_agrees glued).error_eq, ← hrun.fault]
  cases (command.run chain).fault with
  | none => exact hrun
  | some fault =>
    dsimp only [Option.map_some]
    split
    · exact ⟨rfl, hrun.remainder⟩
    · exact hrun

/-- An option whose name may have its argument glued to it by an equals sign. -/
def receiverOption : Entry where
  name := "--to"
  others := ["-t"]
  args := (SlotList.ofSlots [⟨"who", .any, none, false⟩]).toOption.get (by decide)
  separator := some "="
  help := ""
  named := by decide
  distinct := by decide
  separates := by decide

/-- A command that takes a word and the option. -/
def sayCommand : Command :=
  (Command.ofConfig { CommandConfig.ofName "say" with
    args := (SlotList.ofSlots [⟨"word", .any, none, false⟩]).toOption.get (by decide)
    options := [receiverOption] }).toOption.get (by decide +kernel)

/-- The word in the same text as the name of the command, the option in a text of its own. -/
theorem run_glued_say :
    let texts := ["say hello", "--to=me"]
    let chain := Input.chain (texts.map .text)
    let glued := Input.text ((glue sayCommand.separator).intercalate texts)
    (∀ text ∈ texts, ∀ c ∈ text.toList, isQuote c = false) ∧
      (∀ text ∈ texts, startsBlank text = false) ∧
      (sayCommand.run chain).SameUpTo sayCommand.separator (sayCommand.run glued) ∧
      SameAnswer sayCommand.separator (sayCommand.analyse chain) (sayCommand.analyse glued) := by
  have hquote : ∀ text ∈ ["say hello", "--to=me"], ∀ c ∈ text.toList, isQuote c = false := by
    have hall : ∀ text ∈ ["say hello", "--to=me"], (text.toList.any isQuote) = false := by decide
    exact fun text htext c hc => Bool.eq_false_iff.mpr (List.any_eq_false.mp (hall text htext) c hc)
  have hblank : ∀ text ∈ ["say hello", "--to=me"], startsBlank text = false := by decide
  exact ⟨hquote, hblank, run_glued sayCommand hquote hblank⟩

end CommandGrammar
