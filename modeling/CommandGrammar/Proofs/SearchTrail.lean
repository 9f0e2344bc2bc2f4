import CommandGrammar.Proofs.RegexRuns
import Mathlib.Data.Finset.Card
import Mathlib.Data.Finset.Prod

/-!
# A search misses no match

A search follows a thread only where none has been before. On a fixed text the place of a thread and
its address decide where it leads, so the addresses and places that were entered are closed under
steps, up to the threads still to be looked at. When none is left to be looked at, nothing that was
entered leads to the end of the program.

`search_isSome_iff` says that a search finds a match exactly when there is one at some place, and
`search_eq_some` that it finds the leftmost.
-/

namespace CommandGrammar

/-- The thread that begins at a place of a text. -/
def Thread.startAt (text : List Char) (position : Nat) : Thread :=
  .start (text.drop position) (text.take position).getLast? position

/-- Whether a thread stands in a text where its position says. -/
structure Thread.On (text : List Char) (t : Thread) : Prop where
  /-- The position is one of the text. -/
  inside : t.position ≤ text.length
  /-- What is ahead is the text behind it. -/
  ahead : t.ahead = text.drop t.position
  /-- What is before is the last character in front of it. -/
  before : t.before = (text.take t.position).getLast?

/-- Whether two threads stand at one place. -/
structure Thread.SamePlace (s t : Thread) : Prop where
  /-- The same is ahead. -/
  ahead : s.ahead = t.ahead
  /-- The same character is before. -/
  before : s.before = t.before
  /-- As many characters are behind. -/
  position : s.position = t.position

/-- A thread that begins in a text stands there. -/
theorem Thread.startAt_on {text : List Char} {position : Nat} (h : position ≤ text.length) :
    (Thread.startAt text position).On text := ⟨h, rfl, rfl⟩

/-- Threads with one position in a text stand at one place. -/
theorem Thread.On.samePlace {text : List Char} {s t : Thread} (hs : s.On text) (ht : t.On text)
    (h : s.position = t.position) : s.SamePlace t :=
  ⟨by rw [hs.ahead, ht.ahead, h], by rw [hs.before, ht.before, h], h⟩

/-- A step over a character stays in the text. -/
theorem Thread.On.step {text : List Char} {s t : Thread} {chars : CharSet} (hs : s.On text)
    (h : s.step? chars = some t) : t.On text := by
  unfold Thread.step? at h
  split at h
  · cases h
  · rename_i c rest hahead
    split at h
    · cases h
      have hdrop : text.drop s.position = c :: rest := hs.ahead.symm.trans hahead
      have hget : text[s.position]? = some c := by
        rw [← List.head?_drop, hdrop]
        rfl
      obtain ⟨hlt, -⟩ := List.getElem?_eq_some_iff.mp hget
      refine ⟨hlt, ?_, ?_⟩
      · rw [← List.drop_drop, hdrop]
        rfl
      · rw [List.take_add_one, hget]
        simp
    · cases h

/-- Steps lead from a thread in a text to threads in it. -/
theorem on_follow {text : List Char} {i : Instruction} {s : Thread} {y : Nat × Thread}
    (hs : s.On text) (h : y ∈ i.follow s) : y.2.On text := by
  cases i with
  | jump next =>
    cases List.mem_singleton.mp h
    exact hs
  | one chars next =>
    simp only [Instruction.follow] at h
    split at h
    · rename_i t hstep
      cases List.mem_singleton.mp h
      exact hs.step hstep
    · cases h
  | place condition next =>
    simp only [Instruction.follow] at h
    split at h
    · cases List.mem_singleton.mp h
      exact hs
    · cases h
  | openGroup next =>
    cases List.mem_singleton.mp h
    exact ⟨hs.inside, hs.ahead, hs.before⟩
  | closeGroup index next =>
    cases List.mem_singleton.mp h
    unfold Thread.closeGroup
    split
    · exact hs
    · exact ⟨hs.inside, hs.ahead, hs.before⟩
  | split first second =>
    simp only [Instruction.follow, List.mem_cons, List.not_mem_nil, or_false] at h
    rcases h with rfl | rfl <;> exact hs

/-- From one place the same characters are stepped over. -/
theorem Thread.SamePlace.step {s t u : Thread} {chars : CharSet} (h : s.SamePlace t)
    (hstep : s.step? chars = some u) : ∃ v, t.step? chars = some v ∧ u.SamePlace v := by
  unfold Thread.step? at hstep ⊢
  rw [← h.ahead]
  split at hstep
  · cases hstep
  · split at hstep
    · cases hstep
      rename_i hin
      exact ⟨_, if_pos hin, rfl, rfl, by rw [h.position]⟩
    · cases hstep

/-- From one place the same steps are possible, whatever the groups. -/
theorem follow_samePlace {i : Instruction} {s t : Thread} (h : s.SamePlace t) {y : Nat × Thread}
    (hy : y ∈ i.follow s) : ∃ z ∈ i.follow t, z.1 = y.1 ∧ y.2.SamePlace z.2 := by
  cases i with
  | jump next =>
    cases List.mem_singleton.mp hy
    exact ⟨_, List.mem_singleton.mpr rfl, rfl, h⟩
  | one chars next =>
    simp only [Instruction.follow] at hy ⊢
    split at hy
    · rename_i u hstep
      cases List.mem_singleton.mp hy
      obtain ⟨v, hv, hplace⟩ := h.step hstep
      rw [hv]
      exact ⟨_, List.mem_singleton.mpr rfl, rfl, hplace⟩
    · cases hy
  | place condition next =>
    have hcondition : s.isAt condition = t.isAt condition := by
      simp only [Thread.isAt, h.ahead, h.before]
    simp only [Instruction.follow] at hy ⊢
    rw [← hcondition]
    split at hy
    · rename_i hholds
      cases List.mem_singleton.mp hy
      rw [if_pos hholds]
      exact ⟨_, List.mem_singleton.mpr rfl, rfl, h⟩
    · cases hy
  | openGroup next =>
    cases List.mem_singleton.mp hy
    exact ⟨_, List.mem_singleton.mpr rfl, rfl, h.ahead, h.before, h.position⟩
  | closeGroup index next =>
    cases List.mem_singleton.mp hy
    refine ⟨_, List.mem_singleton.mpr rfl, rfl, ?_⟩
    unfold Thread.closeGroup
    split <;> split <;> exact ⟨h.ahead, h.before, h.position⟩
  | split first second =>
    simp only [Instruction.follow, List.mem_cons, List.not_mem_nil, or_false] at hy
    rcases hy with rfl | rfl
    · exact ⟨_, List.mem_cons_self, rfl, h⟩
    · exact ⟨_, List.mem_cons_of_mem _ List.mem_cons_self, rfl, h⟩

/-- Whether no thread at the end of the program is reached. -/
def Program.Fails (p : Program) (x : Nat × Thread) : Prop := ∀ t, ¬ p.Succeeds x t

/-- What is reached does not depend on groups. -/
theorem Program.Path.samePlace {p : Program} {n : Nat} {x y : Nat × Thread} (path : p.Path n x y)
    {t : Thread} (h : x.2.SamePlace t) : ∃ u, p.Path n (x.1, t) (y.1, u) := by
  induction path generalizing t with
  | here x => exact ⟨t, .here _⟩
  | step found follows _ ih =>
    obtain ⟨⟨address, u⟩, hz, rfl, hplace⟩ := follow_samePlace h follows
    obtain ⟨v, hrest⟩ := ih hplace
    exact ⟨v, .step found hz hrest⟩

namespace Trail

/-- Whether all that was entered leads only to what was entered, or to what is still to be looked
at. -/
structure Closed (p : Program) (text : List Char) (trail : Trail) (stack : List (Nat × Thread)) :
    Prop where
  /-- The trail has a place for each address. -/
  size : trail.places.size = p.size
  /-- What was entered has an instruction. -/
  inside : ∀ address position, trail.has address position = true → address < p.size
  /-- A step from what was entered leads to what was entered, or is to be looked at. -/
  closed : ∀ address (t : Thread), t.On text → trail.has address t.position = true →
    ∀ i, p.instructions[address]? = some i → ∀ y ∈ i.follow t,
      trail.has y.1 y.2.position = true ∨ ∃ z ∈ stack, z.1 = y.1 ∧ z.2.position = y.2.position

/-- At the start nothing was entered. -/
theorem closed_start (p : Program) (text : List Char) : Closed p text (.start p) [] where
  size := by simp [start, Program.size]
  inside address position h := by simp [has_start] at h
  closed address t _ h := by simp [has_start] at h

/-- When nothing is left to be looked at, what was entered does not lead to the end. -/
theorem Closed.fails {p : Program} {text : List Char} {trail : Trail}
    (h : Closed p text trail []) {address : Nat} {t : Thread} (hon : t.On text)
    (hentered : trail.has address t.position = true) : p.Fails (address, t) := by
  rintro last ⟨stop, hstop, n, path⟩
  generalize hx : (address, t) = x at path
  generalize hy : (stop, last) = y at path
  induction path generalizing address t with
  | here x =>
    have hsame := hx.trans hy.symm
    cases hsame
    have hlt := h.inside _ _ hentered
    rw [Array.getElem?_eq_none_iff] at hstop
    exact absurd hlt (Nat.not_lt_of_le hstop)
  | step found follows _ ih =>
    subst hx
    have hnext := h.closed address t hon hentered _ found _ follows
    simp only [List.not_mem_nil, false_and, exists_false, or_false] at hnext
    exact ih (on_follow hon follows) hnext rfl hy

/-- What was entered need not be looked at again. -/
theorem Closed.skip {p : Program} {text : List Char} {trail : Trail} {x : Nat × Thread}
    {others : List (Nat × Thread)} (h : Closed p text trail (x :: others))
    (hentered : trail.has x.1 x.2.position = true) : Closed p text trail others := by
  refine ⟨h.size, h.inside, fun address t ht hhas i hi y hy => ?_⟩
  rcases h.closed address t ht hhas i hi y hy with hy | ⟨z, hz, haddress, hposition⟩
  · exact .inl hy
  · rcases List.mem_cons.mp hz with rfl | hz
    · rw [← haddress, ← hposition]
      exact .inl hentered
    · exact .inr ⟨z, hz, haddress, hposition⟩

/-- What is entered leads to what is then to be looked at. -/
theorem Closed.enter {p : Program} {text : List Char} {trail : Trail} {address : Nat} {s : Thread}
    {others : List (Nat × Thread)} (h : Closed p text trail ((address, s) :: others))
    (hs : s.On text) {i : Instruction} (found : p.instructions[address]? = some i) :
    Closed p text (trail.mark address s.position) (i.follow s ++ others) := by
  have haddress : address < p.size := (Array.getElem?_eq_some_iff.mp found).1
  have hmark := has_mark trail (h.size ▸ haddress) s.position
  refine ⟨?_, fun a k hk => ?_, fun a t ht hhas j hj y hy => ?_⟩
  · rw [← h.size]
    simp [mark]
  · rw [hmark, Bool.or_eq_true] at hk
    rcases hk with hk | hk
    · exact h.inside a k hk
    · simp only [Bool.and_eq_true, beq_iff_eq] at hk
      exact hk.1 ▸ haddress
  · simp only [hmark, Bool.or_eq_true, Bool.and_eq_true, beq_iff_eq] at hhas ⊢
    rcases hhas with hhas | ⟨rfl, hposition⟩
    · rcases h.closed a t ht hhas j hj y hy with hy | ⟨z, hz, haddress, hposition⟩
      · exact .inl (.inl hy)
      · rcases List.mem_cons.mp hz with rfl | hz
        · exact .inl (.inr ⟨haddress.symm, hposition.symm⟩)
        · exact .inr ⟨z, List.mem_append_right _ hz, haddress, hposition⟩
    · -- Where the new thread stands, all threads of the text take the same steps.
      cases found.symm.trans hj
      obtain ⟨z, hz, hsame, hplace⟩ := follow_samePlace (ht.samePlace hs hposition) hy
      exact .inr ⟨z, List.mem_append_left _ hz, hsame, hplace.position.symm⟩

/-- The addresses and places of a text that were not entered. -/
def free (p : Program) (text : List Char) (trail : Trail) : Finset (Nat × Nat) :=
  (Finset.range p.size ×ˢ Finset.range (text.length + 1)).filter fun x =>
    trail.has x.1 x.2 = false

/-- There are no more of them than addresses at places. -/
theorem card_free_le (p : Program) (text : List Char) (trail : Trail) :
    (trail.free p text).card ≤ p.size * (text.length + 1) := by
  refine (Finset.card_filter_le _ _).trans ?_
  rw [Finset.card_product, Finset.card_range, Finset.card_range]

/-- Entering a free one leaves fewer of them. -/
theorem card_free_mark {p : Program} {text : List Char} {trail : Trail}
    (hsize : trail.places.size = p.size) {address position : Nat} (haddress : address < p.size)
    (hposition : position ≤ text.length) (hfree : trail.has address position = false) :
    ((trail.mark address position).free p text).card < (trail.free p text).card := by
  have hmark := has_mark trail (hsize ▸ haddress) position
  refine Finset.card_lt_card (Finset.ssubset_iff_of_subset ?_ |>.mpr ⟨(address, position), ?_, ?_⟩)
  · intro x hx
    simp only [free, Finset.mem_filter, hmark, Bool.or_eq_false_iff] at hx ⊢
    exact ⟨hx.1, hx.2.1⟩
  · simp only [free, Finset.mem_filter, Finset.mem_product, Finset.mem_range]
    exact ⟨⟨haddress, Nat.lt_succ_of_le hposition⟩, hfree⟩
  · simp [free, hmark]

end Trail

namespace Program

variable {p : Program} {text : List Char}

/-- A step in front of what leads to the end of the program leads there as well. -/
theorem Succeeds.step {x y : Nat × Thread} {i : Instruction} {t : Thread}
    (found : p.instructions[x.1]? = some i) (follows : y ∈ i.follow x.2) (h : p.Succeeds y t) :
    p.Succeeds x t := by
  obtain ⟨stop, hstop, hreach⟩ := h
  exact ⟨stop, hstop, (reaches_step found follows).trans hreach⟩

/-- A thread that is found comes from one of those to be looked at. -/
theorem followAll_sound {budget : Nat} {trail : Trail} {stack : List (Nat × Thread)} {t : Thread}
    (h : (p.followAll budget trail stack).1 = some t) : ∃ x ∈ stack, p.Succeeds x t := by
  fun_induction followAll p budget trail stack with
  | case1 => cases h
  | case2 => cases h
  | case3 budget trail address s others hend =>
    cases h
    exact ⟨_, List.mem_cons_self, address, hend, 0, .here _⟩
  | case4 budget trail address s others i hfound hentered ih =>
    obtain ⟨x, hx, hsucceeds⟩ := ih h
    exact ⟨x, List.mem_cons_of_mem _ hx, hsucceeds⟩
  | case5 budget trail address s others i hfound hentered ih =>
    obtain ⟨x, hx, hsucceeds⟩ := ih h
    rcases List.mem_append.mp hx with hx | hx
    · exact ⟨_, List.mem_cons_self, hsucceeds.step hfound hx⟩
    · exact ⟨x, List.mem_cons_of_mem _ hx, hsucceeds⟩

/-- A step leads to at most two threads. -/
theorem length_follow_le (i : Instruction) (t : Thread) : (i.follow t).length ≤ 2 := by
  unfold Instruction.follow
  split <;> try split
  all_goals simp

/-- When no thread is found and the budget was enough, nothing is left to be looked at, and all that
was to be looked at was entered. -/
theorem followAll_closed {budget : Nat} {trail last : Trail} {stack : List (Nat × Thread)}
    (hclosed : trail.Closed p text stack) (hon : ∀ x ∈ stack, x.2.On text)
    (hbudget : 2 * (trail.free p text).card + stack.length ≤ budget)
    (h : p.followAll budget trail stack = (none, last)) :
    last.Closed p text [] ∧
      (∀ address position, trail.has address position = true → last.has address position = true) ∧
      ∀ x ∈ stack, last.has x.1 x.2.position = true := by
  fun_induction followAll p budget trail stack with
  | case1 trail stack =>
    have hnil : stack = [] := List.eq_nil_of_length_eq_zero (by omega)
    cases h
    subst hnil
    exact ⟨hclosed, fun _ _ h => h, by simp⟩
  | case2 trail budget =>
    cases h
    exact ⟨hclosed, fun _ _ h => h, by simp⟩
  | case3 => cases h
  | case4 budget trail address s others i hfound hentered ih =>
    rw [List.length_cons] at hbudget
    have hothers : ∀ x ∈ others, x.2.On text := fun x hx => hon x (List.mem_cons_of_mem _ hx)
    obtain ⟨hlast, hmore, hall⟩ := ih (hclosed.skip hentered) hothers (by omega) h
    refine ⟨hlast, hmore, fun x hx => ?_⟩
    rcases List.mem_cons.mp hx with rfl | hx
    · exact hmore _ _ hentered
    · exact hall x hx
  | case5 budget trail address s others i hfound hnew ih =>
    have hs : s.On text := hon _ List.mem_cons_self
    have haddress : address < p.size := (Array.getElem?_eq_some_iff.mp hfound).1
    have hfree : trail.has address s.position = false := Bool.eq_false_iff.mpr hnew
    have hcard := Trail.card_free_mark hclosed.size haddress hs.inside hfree
    have hmark := trail.has_mark (hclosed.size ▸ haddress) s.position
    have hnext : ∀ x ∈ i.follow s ++ others, x.2.On text := fun x hx =>
      (List.mem_append.mp hx).elim (on_follow hs) fun hx => hon x (List.mem_cons_of_mem _ hx)
    have hlength : 2 * ((trail.mark address s.position).free p text).card +
        (i.follow s ++ others).length ≤ budget := by
      have htwo := length_follow_le i s
      rw [List.length_cons] at hbudget
      rw [List.length_append]
      omega
    obtain ⟨hlast, hmore, hall⟩ := ih (hclosed.enter hs hfound) hnext hlength h
    refine ⟨hlast, fun a k hk => hmore a k (by simp [hmark, hk]), fun x hx => ?_⟩
    rcases List.mem_cons.mp hx with rfl | hx
    · exact hmore _ _ (by simp [hmark])
    · exact hall x (List.mem_append_right _ hx)

/-- A budget for a text is enough to look at one thread, whatever was entered. -/
theorem free_le_budgetFor (p : Program) (text : List Char) (trail : Trail) :
    2 * (trail.free p text).card + 1 ≤ p.budgetFor text := by
  have hcard := trail.card_free_le p text
  unfold budgetFor
  rw [Nat.mul_assoc]
  omega

/-- Where nothing is found from a place on, the thread there does not lead to the end; and the trail
stays closed. -/
theorem followAll_fails {trail last : Trail} (hclosed : trail.Closed p text []) {position : Nat}
    (hposition : position ≤ text.length)
    (h : p.followAll (p.budgetFor text) trail [(0, .startAt text position)] = (none, last)) :
    last.Closed p text [] ∧ p.Fails (0, .startAt text position) := by
  have hon := Thread.startAt_on hposition
  have hmore : trail.Closed p text [(0, .startAt text position)] :=
    ⟨hclosed.size, hclosed.inside, fun a t ht hhas i hi y hy =>
      (hclosed.closed a t ht hhas i hi y hy).imp_right fun ⟨z, hz, _⟩ => by cases hz⟩
  obtain ⟨hlast, -, hall⟩ := followAll_closed hmore (by simpa using hon)
    (p.free_le_budgetFor text trail) h
  exact ⟨hlast, hlast.fails hon (hall _ List.mem_cons_self)⟩

/-- What a search from a place on is to find: a match at the first place that has one, or nothing
where no place has one. -/
def FindsFirst (p : Program) (text : List Char) (position : Nat) : Option (Nat × Thread) → Prop
  | some (start, t) => position ≤ start ∧ start ≤ text.length ∧
      p.Succeeds (0, .startAt text start) t ∧
      ∀ k, position ≤ k → k < start → p.Fails (0, .startAt text k)
  | none => ∀ k, position ≤ k → k ≤ text.length → p.Fails (0, .startAt text k)

/-- A match at the place itself is the first from there on. -/
theorem findsFirst_here {trail last : Trail} {position : Nat} {t : Thread}
    (hposition : position ≤ text.length)
    (h : p.followAll (p.budgetFor text) trail [(0, .startAt text position)] = (some t, last)) :
    p.FindsFirst text position (some (position, t)) := by
  obtain ⟨x, hx, hsucceeds⟩ := followAll_sound (congrArg Prod.fst h)
  cases List.mem_singleton.mp hx
  exact ⟨Nat.le_refl _, hposition, hsucceeds, fun k hk hlt => by omega⟩

/-- A place without a match is added to those from the next place on. -/
theorem FindsFirst.after {position : Nat} {found : Option (Nat × Thread)}
    (hfails : p.Fails (0, .startAt text position)) (h : p.FindsFirst text (position + 1) found) :
    p.FindsFirst text position found := by
  have hadd : ∀ k, position ≤ k → (position + 1 ≤ k → p.Fails (0, .startAt text k)) →
      p.Fails (0, .startAt text k) := fun k hk hmore => by
    rcases Nat.eq_or_lt_of_le hk with rfl | hk
    · exact hfails
    · exact hmore hk
  cases found with
  | none => exact fun k hk hle => hadd k hk fun hk => h k hk hle
  | some found =>
    obtain ⟨hle, hinside, hsucceeds, hnone⟩ := h
    exact ⟨by omega, hinside, hsucceeds, fun k hk hlt => hadd k hk fun hk => hnone k hk hlt⟩

/-- A search from a place on finds the first place with a match, and a match there. -/
theorem searchFrom_findsFirst {trail : Trail} (hclosed : trail.Closed p text [])
    {ahead : List Char} {position : Nat} (hposition : position ≤ text.length)
    (hahead : ahead = text.drop position) :
    p.FindsFirst text position
      (p.searchFrom (p.budgetFor text) trail ahead (text.take position).getLast? position) := by
  have hstart : Thread.start ahead (text.take position).getLast? position =
      .startAt text position := by rw [Thread.startAt, hahead]
  induction ahead generalizing trail position with
  | nil =>
    have hend : position = text.length :=
      Nat.le_antisymm hposition (List.drop_eq_nil_iff.mp hahead.symm)
    unfold searchFrom
    rw [hstart]
    cases hfollow : p.followAll (p.budgetFor text) trail [(0, .startAt text position)] with
    | mk found last =>
      cases found with
      | some t => exact findsFirst_here hposition hfollow
      | none =>
        intro k hk hle
        have hsame : k = position := by omega
        exact hsame ▸ (followAll_fails hclosed hposition hfollow).2
  | cons c rest ih =>
    have hget : text[position]? = some c := by
      rw [← List.head?_drop, ← hahead]
      rfl
    obtain ⟨hlt, -⟩ := List.getElem?_eq_some_iff.mp hget
    have hrest : rest = text.drop (position + 1) := by
      rw [← List.drop_drop, ← hahead]
      rfl
    have hbefore : (text.take (position + 1)).getLast? = some c := by
      rw [List.take_add_one, hget]
      simp
    unfold searchFrom
    rw [hstart]
    cases hfollow : p.followAll (p.budgetFor text) trail [(0, .startAt text position)] with
    | mk found last =>
      cases found with
      | some t => exact findsFirst_here hposition hfollow
      | none =>
        obtain ⟨hlast, hfails⟩ := followAll_fails hclosed hposition hfollow
        have hnext := ih hlast hlt hrest (by rw [Thread.startAt, hrest])
        rw [hbefore] at hnext
        exact hnext.after hfails

/-- A search of a whole text finds the first place with a match. -/
theorem searchFrom_text (p : Program) (text : List Char) :
    p.FindsFirst text 0 (p.searchFrom (p.budgetFor text) (.start p) text none 0) :=
  searchFrom_findsFirst (Trail.closed_start p text) (Nat.zero_le _) (List.drop_zero).symm

/-- A match that is found is one of the program at its place, and there is none at a place before
it. -/
theorem search_eq_some {m : RegexMatch} (h : p.search text = some m) :
    m.start ≤ text.length ∧
      (∃ t, p.Succeeds (0, .startAt text m.start) t ∧ m.stop = t.position ∧ m.groups = t.groups) ∧
      ∀ k < m.start, p.Fails (0, .startAt text k) := by
  have hspec := searchFrom_text p text
  obtain ⟨⟨start, t⟩, hfound, rfl⟩ := Option.map_eq_some_iff.mp h
  rw [hfound] at hspec
  obtain ⟨-, hle, hsucceeds, hnone⟩ := hspec
  exact ⟨hle, ⟨t, hsucceeds, rfl, rfl⟩, fun k => hnone k (Nat.zero_le k)⟩

/-- A search finds a match exactly when the program has one at some place of the text. -/
theorem search_isSome_iff :
    (p.search text).isSome ↔ ∃ k ≤ text.length, ∃ t, p.Succeeds (0, .startAt text k) t := by
  constructor
  · intro h
    obtain ⟨m, hm⟩ := Option.isSome_iff_exists.mp h
    obtain ⟨hle, ⟨t, hsucceeds, -⟩, -⟩ := search_eq_some hm
    exact ⟨m.start, hle, t, hsucceeds⟩
  · rintro ⟨k, hle, t, hsucceeds⟩
    have hspec := searchFrom_text p text
    rw [search, Option.isSome_map]
    cases hfound : p.searchFrom (p.budgetFor text) (.start p) text none 0 with
    | some _ => rfl
    | none =>
      rw [hfound] at hspec
      exact absurd hsucceeds (hspec k (Nat.zero_le k) hle t)

end Program

/-- A search for an expression finds a match exactly when the expression has one at some place of
the text. -/
theorem search_ofRegex_isSome_iff (r : Regex) (text : List Char) :
    ((Program.ofRegex r).search text).isSome ↔
      ∃ k ≤ text.length, ∃ t, r.Runs (.startAt text k) t := by
  simp only [Program.search_isSome_iff, Program.succeeds_ofRegex]

end CommandGrammar
