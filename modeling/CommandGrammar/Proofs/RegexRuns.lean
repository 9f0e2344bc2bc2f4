import CommandGrammar.Regex.Search

/-!
# What programs of regular expressions match

`Regex.Runs` says which threads an expression leads from one to another, by the form of the
expression alone. A program is followed step by step, by address. `crosses_code` says that the
instructions of an expression lead from their first address to the one they are left for exactly as
the expression says; so a program matches what its expression does.

Every form of an expression is a region of addresses, entered at its first one. Where regions
follow each other, are alternatives or are repeated, what they do is put together from what their
parts do.
-/

namespace CommandGrammar

/-- A relation a number of times in a row. -/
def Repeated (R : Thread → Thread → Prop) : Nat → Thread → Thread → Prop
  | 0, s, t => t = s
  | n + 1, s, t => ∃ u, R s u ∧ Repeated R n u t

/-- So many times and so many more are that many times together. -/
theorem repeated_add {R : Thread → Thread → Prop} (m n : Nat) (s t : Thread) :
    Repeated R (m + n) s t ↔ ∃ u, Repeated R m s u ∧ Repeated R n u t := by
  induction m generalizing s with
  | zero => simp [Repeated]
  | succ m ih =>
    rw [Nat.succ_add]
    simp only [Repeated, ih]
    constructor
    · rintro ⟨u, hu, v, hv, ht⟩
      exact ⟨v, ⟨u, hu, hv⟩, ht⟩
    · rintro ⟨v, ⟨u, hu, hv⟩, ht⟩
      exact ⟨u, hu, v, hv, ht⟩

/-- Whether an expression leads from one thread to another. -/
def Regex.Runs : Regex → Thread → Thread → Prop
  | empty, s, t => t = s
  | one chars, s, t => s.step? chars = some t
  | place condition, s, t => s.isAt condition = true ∧ t = s
  | group index body, s, t => ∃ u, body.Runs s.openGroup u ∧ t = u.closeGroup index
  | seq first second, s, t => ∃ u, first.Runs s u ∧ second.Runs u t
  | alt first second, s, t => first.Runs s t ∨ second.Runs s t
  | times body least most _, s, t =>
    ∃ n, least ≤ n ∧ (∀ m ∈ most, n ≤ max least m) ∧ Repeated body.Runs n s t

namespace Program

/-- A number of steps of a program, from a thread at an address to another. -/
inductive Path (p : Program) : Nat → Nat × Thread → Nat × Thread → Prop
  /-- No step. -/
  | here (x : Nat × Thread) : Path p 0 x x
  /-- A step and those after it. -/
  | step {n : Nat} {x y z : Nat × Thread} {i : Instruction}
      (found : p.instructions[x.1]? = some i) (follows : y ∈ i.follow x.2) (rest : Path p n y z) :
      Path p (n + 1) x z

/-- Whether a program leads from a thread at an address to another. -/
def Reaches (p : Program) (x y : Nat × Thread) : Prop := ∃ n, p.Path n x y

variable {p : Program} {x y z : Nat × Thread}

/-- One path after another is a path. -/
theorem Path.trans {m n : Nat} (first : p.Path m x y) (second : p.Path n y z) :
    p.Path (m + n) x z := by
  induction first with
  | here => rwa [Nat.zero_add]
  | step found follows _ ih =>
    rw [Nat.add_right_comm]
    exact .step found follows (ih second)

/-- What is reached from where one was led is reached. -/
theorem Reaches.trans (first : p.Reaches x y) (second : p.Reaches y z) : p.Reaches x z := by
  obtain ⟨m, hfirst⟩ := first
  obtain ⟨n, hsecond⟩ := second
  exact ⟨m + n, hfirst.trans hsecond⟩

/-- One step leads where the instruction does. -/
theorem reaches_step {i : Instruction} (found : p.instructions[x.1]? = some i)
    (follows : y ∈ i.follow x.2) : p.Reaches x y := ⟨1, .step found follows (.here y)⟩

/-- Whether instructions stand in a program from an address on. -/
def Holds (p : Program) (start : Nat) (code : List Instruction) : Prop :=
  ∀ k i, code[k]? = some i → p.instructions[start + k]? = some i

/-- Of two parts that stand in a program, the second stands behind the first. -/
theorem holds_append {start : Nat} {first second : List Instruction} :
    p.Holds start (first ++ second) ↔
      p.Holds start first ∧ p.Holds (start + first.length) second := by
  constructor
  · intro h
    refine ⟨fun k i hk => h k i ?_, fun k i hk => ?_⟩
    · rw [List.getElem?_append_left (List.getElem?_eq_some_iff.mp hk).1, hk]
    · rw [Nat.add_assoc]
      refine h _ i ?_
      rw [List.getElem?_append_right (Nat.le_add_right _ _), Nat.add_sub_cancel_left, hk]
  · rintro ⟨hfirst, hsecond⟩ k i hk
    by_cases hlt : k < first.length
    · exact hfirst k i (by rwa [List.getElem?_append_left hlt] at hk)
    · have hle : first.length ≤ k := Nat.le_of_not_lt hlt
      rw [List.getElem?_append_right hle] at hk
      have := hsecond _ i hk
      rwa [Nat.add_assoc, Nat.add_sub_cancel' hle] at this

/-- Of instructions that stand in a program, the first stands at their address. -/
theorem holds_cons {start : Nat} {i : Instruction} {code : List Instruction} :
    p.Holds start (i :: code) ↔ p.instructions[start]? = some i ∧ p.Holds (start + 1) code := by
  have hsingle : p.Holds start [i] ↔ p.instructions[start]? = some i := by
    constructor
    · exact fun h => h 0 i rfl
    · rintro h (_ | k) j hj
      · cases hj
        exact h
      · cases hj
  rw [← List.singleton_append, holds_append, hsingle]
  rfl

/-- What a program does between two addresses. Entered at the first, it leads to the address `next`
for just the threads that a relation says, and every way out goes on from there. -/
structure Crosses (p : Program) (start stop next : Nat) (R : Thread → Thread → Prop) : Prop where
  /-- The program leads to all threads of the relation. -/
  leads : ∀ {s t : Thread}, R s t → p.Reaches (start, s) (next, t)
  /-- A path that ends elsewhere comes to a thread of the relation first. -/
  leaves : ∀ {n : Nat} {s : Thread} {out : Nat × Thread}, p.Path n (start, s) out →
    (out.1 < start ∨ stop ≤ out.1) → ∃ m ≤ n, ∃ t, R s t ∧ p.Path m (next, t) out

namespace Crosses

variable {start middle stop next : Nat} {R S : Thread → Thread → Prop}

/-- Only the threads count, not how the relation is written. -/
theorem congr (h : p.Crosses start stop next R) (hsame : ∀ s t, R s t ↔ S s t) :
    p.Crosses start stop next S := by
  refine ⟨fun hst => h.leads ((hsame _ _).mpr hst), fun path hout => ?_⟩
  obtain ⟨m, hm, t, ht, hpath⟩ := h.leaves path hout
  exact ⟨m, hm, t, (hsame _ _).mp ht, hpath⟩

/-- Two regions one after the other. -/
theorem seq (first : p.Crosses start middle middle R) (second : p.Crosses middle stop next S)
    (hfirst : start ≤ middle) (hsecond : middle ≤ stop) :
    p.Crosses start stop next fun s t => ∃ u, R s u ∧ S u t := by
  refine ⟨fun ⟨u, hfront, hback⟩ => (first.leads hfront).trans (second.leads hback), ?_⟩
  intro n s out path hout
  obtain ⟨m, hm, u, hu, hmiddle⟩ := first.leaves path (by omega)
  obtain ⟨k, hk, t, ht, hrest⟩ := second.leaves hmiddle (by omega)
  exact ⟨k, Nat.le_trans hk hm, t, ⟨u, hu, ht⟩, hrest⟩

/-- A way out of a region begins with a step of the instruction at its first address. -/
theorem first_step {i : Instruction} {n : Nat} {s : Thread} {out : Nat × Thread}
    (found : p.instructions[start]? = some i) (path : p.Path n (start, s) out)
    (hlt : start < stop) (hout : out.1 < start ∨ stop ≤ out.1) :
    ∃ y ∈ i.follow s, ∃ m, n = m + 1 ∧ p.Path m y out := by
  cases path with
  | here =>
    dsimp only at hout
    omega
  | step hfound follows rest =>
    cases found.symm.trans hfound
    exact ⟨_, follows, _, rfl, rest⟩

/-- A region of one instruction does what the instruction does. -/
theorem single {i : Instruction} (found : p.instructions[start]? = some i)
    (hfollow : ∀ s out, out ∈ i.follow s ↔ ∃ t, out = (next, t) ∧ R s t) :
    p.Crosses start (start + 1) next R := by
  refine ⟨fun h => reaches_step found ((hfollow _ _).mpr ⟨_, rfl, h⟩), fun path hout => ?_⟩
  obtain ⟨y, hy, m, rfl, rest⟩ := first_step found path (Nat.lt_add_one _) hout
  obtain ⟨t, rfl, ht⟩ := (hfollow _ _).mp hy
  exact ⟨m, Nat.le_succ m, t, ht, rest⟩

/-- A region that is entered for either of two parts. -/
theorem alt {other : Nat} (found : p.instructions[start]? = some (.split (start + 1) other))
    (first : p.Crosses (start + 1) other next R) (second : p.Crosses other stop next S)
    (hfirst : start + 1 ≤ other) (hsecond : other ≤ stop) :
    p.Crosses start stop next fun s t => R s t ∨ S s t := by
  refine ⟨fun {s t} h => ?_, fun path hout => ?_⟩
  · rcases h with h | h
    · exact (reaches_step found (by simp [Instruction.follow])).trans (first.leads h)
    · exact (reaches_step found (by simp [Instruction.follow])).trans (second.leads h)
  · obtain ⟨y, hy, m, rfl, rest⟩ := first_step found path (by omega) hout
    simp only [Instruction.follow, List.mem_cons, List.not_mem_nil, or_false] at hy
    rcases hy with rfl | rfl
    · obtain ⟨k, hk, t, ht, hrest⟩ := first.leaves rest (by omega)
      exact ⟨k, Nat.le_succ_of_le hk, t, .inl ht, hrest⟩
    · obtain ⟨k, hk, t, ht, hrest⟩ := second.leaves rest (by omega)
      exact ⟨k, Nat.le_succ_of_le hk, t, .inr ht, hrest⟩

/-- The instruction at a repeated part goes inside or outside, whatever it prefers. -/
theorem mem_follow_enter {greedy : Bool} {inside outside : Nat} {s : Thread}
    {out : Nat × Thread} :
    out ∈ (Instruction.enter greedy inside outside).follow s ↔
      out = (inside, s) ∨ out = (outside, s) := by
  cases greedy <;> simp [Instruction.enter, Instruction.follow, or_comm]

/-- A part that may be left out. -/
theorem optional {greedy : Bool}
    (found : p.instructions[start]? = some (.enter greedy (start + 1) next))
    (part : p.Crosses (start + 1) stop next R) (hle : start + 1 ≤ stop) :
    p.Crosses start stop next fun s t => t = s ∨ R s t := by
  refine ⟨fun {s t} h => ?_, fun path hout => ?_⟩
  · rcases h with rfl | h
    · exact reaches_step found (mem_follow_enter.mpr (.inr rfl))
    · exact (reaches_step found (mem_follow_enter.mpr (.inl rfl))).trans (part.leads h)
  · obtain ⟨y, hy, m, rfl, rest⟩ := first_step found path (by omega) hout
    rcases mem_follow_enter.mp hy with rfl | rfl
    · obtain ⟨k, hk, t, ht, hrest⟩ := part.leaves rest (by omega)
      exact ⟨k, Nat.le_succ_of_le hk, t, .inr ht, hrest⟩
    · exact ⟨m, Nat.le_succ m, _, .inl rfl, rest⟩

/-- A part that is entered before each time, and comes back to be entered again. -/
theorem loop {greedy : Bool}
    (found : p.instructions[start]? = some (.enter greedy (start + 1) next))
    (part : p.Crosses (start + 1) stop start R) (hle : start + 1 ≤ stop) :
    p.Crosses start stop next fun s t => ∃ n, Repeated R n s t := by
  constructor
  · rintro s t ⟨n, h⟩
    induction n generalizing s with
    | zero =>
      cases h
      exact reaches_step found (mem_follow_enter.mpr (.inr rfl))
    | succ n ih =>
      obtain ⟨u, hu, ht⟩ := h
      have hpart : p.Reaches (start, s) (start, u) :=
        (reaches_step found (mem_follow_enter.mpr (.inl rfl))).trans (part.leads hu)
      exact hpart.trans (ih ht)
  · intro n s out path hout
    -- Every time the part is left again fewer steps are ahead.
    induction n using Nat.strongRecOn generalizing s with
    | _ n ih =>
      obtain ⟨y, hy, m, rfl, rest⟩ := first_step found path (by omega) hout
      rcases mem_follow_enter.mp hy with rfl | rfl
      · obtain ⟨k, hk, u, hu, hback⟩ := part.leaves rest (by omega)
        obtain ⟨j, hj, t, ⟨times, ht⟩, hrest⟩ := ih k (by omega) hback
        exact ⟨j, by omega, t, ⟨times + 1, u, hu, ht⟩, hrest⟩
      · exact ⟨m, Nat.le_succ m, _, ⟨0, rfl⟩, rest⟩

/-- A part that is entered again after it, if at all. -/
theorem loopAfter {greedy : Bool} (part : p.Crosses start stop stop R)
    (found : p.instructions[stop]? = some (.enter greedy start next)) (hle : start ≤ stop) :
    p.Crosses start (stop + 1) next fun s t => ∃ n, Repeated R (n + 1) s t := by
  constructor
  · rintro s t ⟨n, h⟩
    induction n generalizing s with
    | zero =>
      obtain ⟨u, hu, rfl⟩ := h
      exact (part.leads hu).trans (reaches_step found (mem_follow_enter.mpr (.inr rfl)))
    | succ n ih =>
      obtain ⟨u, hu, ht⟩ := h
      have hpart : p.Reaches (start, s) (start, u) :=
        (part.leads hu).trans (reaches_step found (mem_follow_enter.mpr (.inl rfl)))
      exact hpart.trans (ih ht)
  · intro n s out path hout
    induction n using Nat.strongRecOn generalizing s with
    | _ n ih =>
      obtain ⟨k, hk, u, hu, hback⟩ := part.leaves path (by omega)
      obtain ⟨y, hy, m, rfl, rest⟩ := first_step found hback (Nat.lt_add_one stop) (by omega)
      rcases mem_follow_enter.mp hy with rfl | rfl
      · obtain ⟨j, hj, t, ⟨times, ht⟩, hrest⟩ := ih m (by omega) rest
        exact ⟨j, by omega, t, ⟨times + 1, u, hu, ht⟩, hrest⟩
      · exact ⟨m, by omega, u, ⟨0, u, hu, rfl⟩, rest⟩

end Crosses

/-- Copies begin with one copy. -/
theorem copies_succ (code : Nat → Nat → List Instruction) (size count start : Nat) :
    Regex.copies code size (count + 1) start =
      code start (start + size) ++ Regex.copies code size count (start + size) := by
  have hshift : ∀ k, start + size * (k + 1) = start + size + size * k := fun k => by
    rw [Nat.mul_add_one]
    omega
  unfold Regex.copies
  rw [List.range_succ_eq_map, List.flatMap_cons, List.flatMap_map]
  simp only [Nat.succ_eq_add_one, hshift, Nat.mul_zero, Nat.add_zero]

/-- Copies of a part end with one copy. -/
theorem copies_last (code : Nat → Nat → List Instruction) (size count start : Nat) :
    Regex.copies code size (count + 1) start =
      Regex.copies code size count start ++
        code (start + size * count) (start + size * count + size) := by
  unfold Regex.copies
  simp [List.range_succ, Nat.mul_add_one, Nat.add_assoc]

section Copies

variable {code : Nat → Nat → List Instruction} {size : Nat} {R : Thread → Thread → Prop}
  (hlength : ∀ start next, (code start next).length = size)
  (hcode : ∀ {start next}, p.Holds start (code start next) → p.Crosses start (start + size) next R)

include hlength hcode

/-- Copies do what the part does, as often as there are copies. -/
theorem crosses_copies {count start : Nat} (h : p.Holds start (Regex.copies code size count start)) :
    p.Crosses start (start + size * count) (start + size * count) (Repeated R count) := by
  induction count generalizing start with
  | zero =>
    refine ⟨fun {s t} ht => ?_, fun {n s out} path _ => ⟨n, Nat.le_refl n, s, rfl, path⟩⟩
    cases ht
    exact ⟨0, .here _⟩
  | succ count ih =>
    rw [copies_succ, holds_append, hlength] at h
    have hboth := (hcode h.1).seq (ih h.2) (Nat.le_add_right _ _) (Nat.le_add_right _ _)
    rw [Nat.mul_add_one, Nat.add_comm (size * count), ← Nat.add_assoc]
    exact hboth

/-- Optional copies do what the part does, at most as often as there are copies. -/
theorem crosses_optionalCopies {greedy : Bool} {count start stop : Nat}
    (hstop : stop = start + (size + 1) * count)
    (h : p.Holds start (Regex.optionalCopies code size count greedy start stop)) :
    p.Crosses start stop stop fun s t => ∃ n ≤ count, Repeated R n s t := by
  unfold Regex.optionalCopies at h
  induction count generalizing start with
  | zero =>
    subst hstop
    refine ⟨fun {s t} ⟨n, hn, ht⟩ => ?_, fun {n s out} path _ => ?_⟩
    · cases Nat.le_zero.mp hn
      cases ht
      exact ⟨0, .here _⟩
    · exact ⟨n, Nat.le_refl n, s, ⟨0, Nat.le_refl 0, rfl⟩, path⟩
  | succ count ih =>
    rw [copies_succ, holds_append, List.length_cons, hlength, holds_cons] at h
    obtain ⟨⟨henter, hpart⟩, hrest⟩ := h
    have hnext : start + 1 + size = start + (size + 1) := by omega
    have hlast : stop = start + (size + 1) + (size + 1) * count := by
      rw [hstop, Nat.mul_add_one]
      omega
    have hfirst := hcode hpart
    rw [hnext] at hfirst
    have hboth := (hfirst.seq (ih hlast hrest) (by omega) (by omega)).optional henter (by omega)
    refine hboth.congr fun s t => ?_
    constructor
    · rintro (rfl | ⟨u, hu, n, hn, ht⟩)
      · exact ⟨0, Nat.zero_le _, rfl⟩
      · exact ⟨n + 1, Nat.succ_le_succ hn, u, hu, ht⟩
    · rintro ⟨n, hn, ht⟩
      cases n with
      | zero => exact .inl ht
      | succ n =>
        obtain ⟨u, hu, ht⟩ := ht
        exact .inr ⟨u, hu, n, Nat.le_of_succ_le_succ hn, ht⟩

/-- A part that may have no characters is entered, left or entered again after it, any number of
times. -/
theorem crosses_anyTimes {greedy : Bool} {start next : Nat}
    (h : p.Holds start (.enter greedy (start + 1) next ::
      (code (start + 1) (start + 1 + size) ++ [.enter greedy (start + 1) next]))) :
    p.Crosses start (start + 1 + size + 1) next fun s t => ∃ n, Repeated R n s t := by
  rw [holds_cons, holds_append, hlength, holds_cons] at h
  obtain ⟨henter, hbody, hagain, -⟩ := h
  have hloop := ((hcode hbody).loopAfter hagain (by omega)).optional henter (by omega)
  refine hloop.congr fun s t => ?_
  constructor
  · rintro (rfl | ⟨n, ht⟩)
    · exact ⟨0, rfl⟩
    · exact ⟨n + 1, ht⟩
  · rintro ⟨_ | n, ht⟩
    · exact .inl ht
    · exact .inr ⟨n, ht⟩

/-- Repeated without an upper count, the code of a part that has stood before is entered again or
left at the end of its last copy. -/
theorem crosses_atLeast {greedy : Bool} {least start next : Nat}
    (h : p.Holds start (Regex.copies code size (least + 1) start ++
      [.enter greedy (start + size * least) next])) :
    p.Crosses start (start + (size * (least + 1) + 1)) next fun s t =>
      ∃ n, least + 1 ≤ n ∧ Repeated R n s t := by
  rw [holds_append, Regex.length_copies hlength, copies_last, holds_append,
    Regex.length_copies hlength, holds_cons, Nat.mul_add_one, ← Nat.add_assoc] at h
  obtain ⟨⟨hcopies, hlast⟩, henter, -⟩ := h
  have hfirst := crosses_copies hlength hcode hcopies
  have hloop := (hcode hlast).loopAfter henter (Nat.le_add_right _ _)
  have hboth := hfirst.seq hloop (Nat.le_add_right _ _) (by omega)
  rw [Nat.mul_add_one, ← Nat.add_assoc, ← Nat.add_assoc]
  refine hboth.congr fun s t => ?_
  constructor
  · rintro ⟨u, hu, n, ht⟩
    exact ⟨least + (n + 1), by omega, (repeated_add least (n + 1) s t).mpr ⟨u, hu, ht⟩⟩
  · rintro ⟨n, hn, ht⟩
    obtain ⟨more, rfl⟩ : ∃ more, n = least + (more + 1) := ⟨n - least - 1, by omega⟩
    obtain ⟨u, hu, ht⟩ := (repeated_add least (more + 1) s t).mp ht
    exact ⟨u, hu, more, ht⟩

/-- Repeated up to a count, the code of a part is copied as often as it has to stand, and then as
often as it may stand. -/
theorem crosses_between {greedy : Bool} {least more start next : Nat}
    (h : p.Holds start (Regex.copies code size least start ++
      (Regex.optionalCopies code size more greedy (start + size * least)
        (start + size * least + (size + 1) * more) ++ [.jump next]))) :
    p.Crosses start (start + (size * least + (size + 1) * more + 1)) next fun s t =>
      ∃ n, least ≤ n ∧ n ≤ least + more ∧ Repeated R n s t := by
  simp only [holds_append, Regex.length_copies hlength, Regex.length_optionalCopies hlength,
    holds_cons] at h
  obtain ⟨hcopies, hmore, hjump, -⟩ := h
  have hfirst := crosses_copies hlength hcode hcopies
  have hsecond := crosses_optionalCopies hlength hcode rfl hmore
  have hlast : p.Crosses _ _ next fun s t => t = s :=
    .single hjump fun s out => by simp [Instruction.follow]
  have hboth := hfirst.seq (hsecond.seq hlast (by omega) (by omega)) (by omega) (by omega)
  rw [← Nat.add_assoc, ← Nat.add_assoc]
  refine hboth.congr fun s t => ?_
  constructor
  · rintro ⟨u, hu, _, ⟨n, hn, ht⟩, rfl⟩
    exact ⟨least + n, by omega, by omega, (repeated_add least n s t).mpr ⟨u, hu, ht⟩⟩
  · rintro ⟨n, hn, hle, ht⟩
    obtain ⟨extra, rfl⟩ : ∃ extra, n = least + extra := ⟨n - least, by omega⟩
    obtain ⟨u, hu, ht⟩ := (repeated_add least extra s t).mp ht
    exact ⟨u, hu, t, ⟨extra, by omega, ht⟩, rfl⟩

end Copies

/-- The instructions of an expression do what the expression says. -/
theorem crosses_code (r : Regex) {start next : Nat} (h : p.Holds start (r.code start next)) :
    p.Crosses start (start + r.size) next r.Runs := by
  induction r generalizing start next with
  | empty =>
    refine .single (holds_cons.mp h).1 fun s out => ?_
    simp [Instruction.follow, Regex.Runs]
  | one chars =>
    refine .single (holds_cons.mp h).1 fun s out => ?_
    simp only [Instruction.follow, Regex.Runs]
    cases s.step? chars <;> simp
  | place condition =>
    refine .single (holds_cons.mp h).1 fun s out => ?_
    simp only [Instruction.follow, Regex.Runs]
    split <;> simp_all
  | group index body ih =>
    simp only [Regex.code, holds_cons, holds_append, Regex.length_code] at h
    obtain ⟨hopen, hbody, hclose, -⟩ := h
    have hfirst : p.Crosses start (start + 1) (start + 1) fun s t => t = s.openGroup :=
      .single hopen fun s out => by simp [Instruction.follow]
    have hlast : p.Crosses (start + 1 + body.size) (start + 1 + body.size + 1) next
        fun s t => t = s.closeGroup index := .single hclose fun s out => by simp [Instruction.follow]
    have hboth := hfirst.seq ((ih hbody).seq hlast (by omega) (by omega)) (by omega) (by omega)
    have hsize : start + (body.size + 2) = start + 1 + body.size + 1 := by omega
    rw [Regex.size, hsize]
    exact hboth.congr fun s t => by simp [Regex.Runs]
  | seq first second ihFirst ihSecond =>
    simp only [Regex.code, holds_append, Regex.length_code] at h
    rw [Regex.size, ← Nat.add_assoc]
    exact (ihFirst h.1).seq (ihSecond h.2) (by omega) (by omega)
  | alt first second ihFirst ihSecond =>
    simp only [Regex.code, holds_cons, holds_append, Regex.length_code] at h
    obtain ⟨hsplit, hfirst, hsecond⟩ := h
    have hsize : start + (first.size + second.size + 1) = start + 1 + first.size + second.size := by
      omega
    rw [Regex.size, hsize]
    exact .alt hsplit (ihFirst hfirst) (ihSecond hsecond) (by omega) (by omega)
  | times body least most greedy ih =>
    cases most with
    | none =>
      cases least with
      | zero =>
        simp only [Regex.code, Regex.size] at h ⊢
        split at h <;> rename_i hconsumes
        · -- What has characters in all its texts is entered where it starts again.
          rw [holds_cons] at h
          rw [if_pos hconsumes, Nat.add_comm body.size, ← Nat.add_assoc]
          exact ((ih h.2).loop h.1 (by omega)).congr fun s t => by simp [Regex.Runs]
        · have hsize : start + (body.size + 2) = start + 1 + body.size + 1 := by omega
          rw [if_neg hconsumes, hsize]
          exact (crosses_anyTimes (Regex.length_code body) ih h).congr fun s t => by
            simp [Regex.Runs]
      | succ least =>
        exact (crosses_atLeast (Regex.length_code body) ih h).congr fun s t => by
          simp [Regex.Runs]
    | some most =>
      have hmost : least + (most - least) = max least most := by omega
      exact (crosses_between (Regex.length_code body) ih h).congr fun s t => by
        simp [Regex.Runs, hmost]

/-- Whether a thread at an address leads to the end of the program. -/
def Succeeds (p : Program) (x : Nat × Thread) (t : Thread) : Prop :=
  ∃ stop, p.instructions[stop]? = none ∧ p.Reaches x (stop, t)

/-- The program of an expression stands at its start. -/
theorem holds_ofRegex (r : Regex) : (ofRegex r).Holds 0 (r.code 0 r.size) := by
  intro k i hk
  simpa [ofRegex] using hk

/-- The program of an expression leads from its start to its end as the expression says. -/
theorem succeeds_ofRegex (r : Regex) (s t : Thread) :
    (ofRegex r).Succeeds (0, s) t ↔ r.Runs s t := by
  have hcode := crosses_code r (holds_ofRegex r)
  rw [Nat.zero_add] at hcode
  have hend : ∀ address, (ofRegex r).instructions[address]? = none ↔ r.size ≤ address := by
    intro address
    rw [Array.getElem?_eq_none_iff, ← size, size_ofRegex]
  constructor
  · rintro ⟨stop, hstop, n, path⟩
    obtain ⟨m, -, u, hu, rest⟩ := hcode.leaves path (.inr ((hend stop).mp hstop))
    -- At the end of the program there is no further step.
    cases rest with
    | here => exact hu
    | step found _ _ => cases ((hend r.size).mpr (Nat.le_refl _)).symm.trans found
  · exact fun h => ⟨r.size, (hend r.size).mpr (Nat.le_refl _), hcode.leads h⟩

end Program

end CommandGrammar
