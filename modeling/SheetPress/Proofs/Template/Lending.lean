import SheetPress.Template.Pool
import Mathlib.Data.List.Nodup
import Mathlib.Data.List.Perm.Subperm
import Mathlib.Logic.Relation

/-!
# Lending evaluators

Borrowers take evaluators and return them, others hand evaluators to the pool that it has never seen,
and sweeps come at any time. Evaluators are told apart here, so `make` gives another one every time.

* `Lending.Step` — what can happen to a pool and the evaluators it has lent. Which evaluators it may
  adopt from outside is a parameter.
* `EvaluatorPool.IsSweptTo` — what one sweep does to the idle evaluators, and `isSweptTo_sweep`, that
  it does so to those of any pool.
* `Lending.IsSound` — the idle evaluators are within the maximum, and no evaluator is in two hands.
* `Lending.isSound_of_reachable` — this is so after any run of steps.
* `Lending.lends_once` — both together.
-/

namespace SheetPress

open List (Sublist Perm Subperm)

namespace EvaluatorPool

variable {ε : Type}

/-! ## Sweeps -/

/-- What a sweep at a time does that finds a pool and leaves another one, and says that it has dropped
so many evaluators. -/
structure IsSweptTo (p : EvaluatorPool ε) (now count : Nat) (swept : EvaluatorPool ε) : Prop where
  /-- Nothing but the idle evaluators changes. -/
  elsewhere : swept = { p with idle := swept.idle }
  /-- Those that stay are in their order. -/
  inOrder : Sublist swept.idle p.idle
  /-- Those that go are as many as it says, and have been idle for the timeout. -/
  dropped : ∃ gone, Perm p.idle (swept.idle ++ gone) ∧ gone.length = count ∧
    ∀ item ∈ gone, p.config.idleTimeout ≤ now - item.returnedAt
  /-- The minimum stays, or all if there are less. -/
  keeps : min p.config.minSize p.idle.length ≤ swept.idle.length
  /-- Another sweep at this time finds nothing to drop. -/
  again : swept.sweep now = (0, swept)

variable (config : PoolConfig) (now kept : Nat) (items : List (IdleEvaluator ε))

theorem keepIdle_sublist : Sublist (keepIdle config now kept items) items := by
  fun_induction keepIdle config now kept items with
  | case1 => exact .slnil
  | case2 kept item rest _ ih => exact ih.cons_cons item
  | case3 kept item rest _ ih => exact ih.cons item

theorem exists_perm_keepIdle_append : ∃ gone, Perm items (keepIdle config now kept items ++ gone) ∧
    ∀ item ∈ gone, config.idleTimeout ≤ now - item.returnedAt := by
  fun_induction keepIdle config now kept items with
  | case1 => exact ⟨[], .nil, by simp⟩
  | case2 kept item rest _ ih =>
    obtain ⟨gone, hperm, hgone⟩ := ih
    exact ⟨gone, hperm.cons item, hgone⟩
  | case3 kept item rest hdrop ih =>
    obtain ⟨gone, hperm, hgone⟩ := ih
    refine ⟨item :: gone, (hperm.cons item).trans List.perm_middle.symm, ?_⟩
    exact List.forall_mem_cons.2 ⟨by omega, hgone⟩

/-- With those kept before, the evaluators that a sweep keeps reach the minimum. -/
theorem min_le_length_keepIdle :
    min config.minSize (kept + items.length) ≤ kept + (keepIdle config now kept items).length := by
  fun_induction keepIdle config now kept items with
  | case1 => exact Nat.min_le_right _ _
  | case2 kept item rest _ ih =>
    rw [List.length_cons, List.length_cons]
    omega
  | case3 kept item rest hdrop ih => omega

theorem keepIdle_keepIdle :
    keepIdle config now kept (keepIdle config now kept items) = keepIdle config now kept items := by
  fun_induction keepIdle config now kept items with
  | case1 => rfl
  | case2 kept item rest hkeep ih => rw [keepIdle, if_pos hkeep, ih]
  | case3 kept item rest _ ih => exact ih

/-- A sweep drops only evaluators that have been idle for the timeout, and not those it needs for the
minimum. -/
theorem isSweptTo_sweep (p : EvaluatorPool ε) (now : Nat) :
    p.IsSweptTo now (p.sweep now).1 (p.sweep now).2 := by
  obtain ⟨gone, hperm, hgone⟩ := exists_perm_keepIdle_append p.config now 0 p.idle
  have hlength := hperm.length_eq
  rw [List.length_append] at hlength
  refine ⟨rfl, keepIdle_sublist p.config now 0 p.idle, ⟨gone, hperm, ?_, hgone⟩, ?_, ?_⟩
  · simp only [sweep]
    omega
  · have hkeeps := min_le_length_keepIdle p.config now 0 p.idle
    rwa [Nat.zero_add, Nat.zero_add] at hkeeps
  · simp only [sweep, keepIdle_keepIdle, Nat.sub_self]

/-! ## Borrowing and returning -/

/-- The idle evaluators alone. -/
def evaluators (p : EvaluatorPool ε) : List ε :=
  p.idle.map (·.evaluator)

/-- The evaluator lent is an idle one, or one just made. -/
theorem borrow_cases (p : EvaluatorPool ε) :
    (∃ rest last, p.idle = rest ++ [last] ∧ p.borrow = (last.evaluator, { p with idle := rest })) ∨
      p.idle = [] ∧ p.borrow = (p.make p.created, { p with created := p.created + 1 }) := by
  unfold borrow
  cases hlast : p.idle.getLast? with
  | none => exact .inr ⟨List.getLast?_eq_none_iff.1 hlast, rfl⟩
  | some last =>
    obtain ⟨rest, hrest⟩ := List.getLast?_eq_some_iff.1 hlast
    exact .inl ⟨rest, last, hrest, by rw [hrest, List.dropLast_concat]⟩

/-- The evaluator returned is dropped, or idle. -/
theorem giveBack_cases (p : EvaluatorPool ε) (now : Nat) (e : ε) :
    p.giveBack now e = p ∨ p.idle.length < p.config.maxSize ∧
      p.giveBack now e = { p with idle := p.idle ++ [⟨e, now⟩] } := by
  unfold giveBack
  by_cases hroom : p.idle.length < p.config.maxSize
  · exact .inr ⟨hroom, if_pos hroom⟩
  · exact .inl (if_neg hroom)

theorem subperm_evaluators_giveBack (p : EvaluatorPool ε) (now : Nat) (e : ε) :
    Subperm (p.giveBack now e).evaluators (e :: p.evaluators) := by
  obtain h | ⟨-, h⟩ := p.giveBack_cases now e
  · rw [h]
    exact (List.sublist_cons_self e p.evaluators).subperm
  · simp only [h, evaluators, List.map_append, List.map_cons, List.map_nil]
    exact (List.perm_append_singleton e _).subperm

end EvaluatorPool

namespace Lending

variable {ε : Type}

/-! ## Steps -/

/-- Something happens to a pool: an evaluator is borrowed, or a lent one is returned, or one from
outside is adopted, or the pool is swept. -/
inductive Step (Adopts : Lending ε → ε → Prop) : Lending ε → Lending ε → Prop
  | borrow (l : Lending ε) : Step Adopts l l.borrow.2
  | giveBack (l : Lending ε) (now position : Nat) : Step Adopts l (l.giveBack now position)
  | adopt (l : Lending ε) (now : Nat) (e : ε) (hadopts : Adopts l e) :
    Step Adopts l { l with pool := l.pool.giveBack now e }
  | sweep (l : Lending ε) (now : Nat) : Step Adopts l { l with pool := (l.pool.sweep now).2 }

/-- A pool that has just been made, with nothing lent. -/
def start (config : PoolConfig) (make : Nat → ε) (now : Nat) : Lending ε where
  pool := .start config make now

/-- The evaluators in anyone's hands: the idle ones and the lent ones. -/
def evaluators (l : Lending ε) : List ε :=
  l.pool.evaluators ++ l.lent

/-- An evaluator from outside: neither idle nor lent, and none that the pool will make. -/
structure IsForeign (l : Lending ε) (e : ε) : Prop where
  notMem : e ∉ l.evaluators
  neMake : ∀ n, l.pool.created ≤ n → e ≠ l.pool.make n

/-- The idle evaluators are within the maximum, and every evaluator is in one hand only. -/
structure IsSound (config : PoolConfig) (make : Nat → ε) (l : Lending ε) : Prop where
  config_eq : l.pool.config = config
  make_eq : l.pool.make = make
  length_le : l.pool.idle.length ≤ config.maxSize
  nodup : l.evaluators.Nodup
  /-- The evaluators still to be made are in nobody's hands. -/
  unmade : ∀ n, l.pool.created ≤ n → make n ∉ l.evaluators

variable {config : PoolConfig} {make : Nat → ε} {l : Lending ε}

theorem nodup_of_subperm {items others : List ε} (hsub : Subperm items others)
    (h : others.Nodup) : items.Nodup := by
  obtain ⟨chosen, hperm, hsublist⟩ := hsub
  exact hperm.nodup (hsublist.nodup h)

/-! ## What is in whose hands -/

theorem evaluators_borrow (l : Lending ε) :
    Perm l.borrow.2.evaluators l.evaluators ∧ l.borrow.2.pool.created = l.pool.created ∨
      Perm l.borrow.2.evaluators (l.pool.make l.pool.created :: l.evaluators) ∧
        l.borrow.2.pool.created = l.pool.created + 1 := by
  obtain ⟨rest, last, hidle, hborrow⟩ | ⟨hidle, hborrow⟩ := l.pool.borrow_cases
  · refine .inl ⟨?_, by rw [borrow, hborrow]⟩
    simp only [evaluators, EvaluatorPool.evaluators, borrow, hborrow, hidle, List.map_append,
      List.map_cons, List.map_nil, List.append_assoc]
    exact List.perm_append_comm.append_left _
  · refine .inr ⟨?_, by rw [borrow, hborrow]⟩
    simp only [evaluators, EvaluatorPool.evaluators, borrow, hborrow, hidle, List.map_nil,
      List.nil_append]
    exact List.perm_append_singleton _ _

theorem subperm_evaluators_giveBack (l : Lending ε) (now position : Nat) :
    Subperm (l.giveBack now position).evaluators l.evaluators := by
  unfold giveBack
  cases hlent : l.lent[position]? with
  | none => exact .refl _
  | some e =>
    obtain ⟨hposition, rfl⟩ := List.getElem?_eq_some_iff.1 hlent
    -- The evaluator leaves the lent ones, and joins the idle ones unless it is dropped.
    have hlent : Perm (l.lent[position] :: l.lent.eraseIdx position) l.lent :=
      List.getElem_cons_eraseIdx_perm hposition
    have hmoved := (List.subperm_append_right (l.lent.eraseIdx position)).2
      (l.pool.subperm_evaluators_giveBack now l.lent[position])
    exact hmoved.trans (List.perm_middle.symm.trans (hlent.append_left _)).subperm

theorem subperm_evaluators_adopt (l : Lending ε) (now : Nat) (e : ε) :
    Subperm ({ l with pool := l.pool.giveBack now e } : Lending ε).evaluators (e :: l.evaluators) :=
  (List.subperm_append_right l.lent).2 (l.pool.subperm_evaluators_giveBack now e)

theorem evaluators_sweep_sublist (l : Lending ε) (now : Nat) :
    Sublist ({ l with pool := (l.pool.sweep now).2 } : Lending ε).evaluators l.evaluators :=
  ((l.pool.isSweptTo_sweep now).inOrder.map _).append_right l.lent

/-! ## Every step keeps a pool sound -/

/-- No step changes how a pool is run, or unmakes an evaluator. -/
theorem Step.frame {Adopts : Lending ε → ε → Prop} {l' : Lending ε} (h : Step Adopts l l') :
    l'.pool.config = l.pool.config ∧ l'.pool.make = l.pool.make ∧
      l.pool.created ≤ l'.pool.created := by
  have hgive (now : Nat) (e : ε) : (l.pool.giveBack now e).config = l.pool.config ∧
      (l.pool.giveBack now e).make = l.pool.make ∧
        l.pool.created ≤ (l.pool.giveBack now e).created := by
    obtain hgive | ⟨-, hgive⟩ := l.pool.giveBack_cases now e
    all_goals
      rw [hgive]
      exact ⟨rfl, rfl, Nat.le_refl _⟩
  cases h with
  | borrow =>
    obtain ⟨rest, last, -, hborrow⟩ | ⟨-, hborrow⟩ := l.pool.borrow_cases
    · rw [Lending.borrow, hborrow]
      exact ⟨rfl, rfl, Nat.le_refl _⟩
    · rw [Lending.borrow, hborrow]
      exact ⟨rfl, rfl, Nat.le_succ _⟩
  | giveBack now position =>
    unfold Lending.giveBack
    cases l.lent[position]? with
    | none => exact ⟨rfl, rfl, Nat.le_refl _⟩
    | some e => exact hgive now e
  | adopt now e => exact hgive now e
  | sweep now => exact ⟨rfl, rfl, Nat.le_refl _⟩

/-- No step makes too many evaluators idle. -/
theorem Step.length_le {Adopts : Lending ε → ε → Prop} {l' : Lending ε} (h : Step Adopts l l')
    (hlength : l.pool.idle.length ≤ l.pool.config.maxSize) :
    l'.pool.idle.length ≤ l.pool.config.maxSize := by
  have hgive (now : Nat) (e : ε) : (l.pool.giveBack now e).idle.length ≤ l.pool.config.maxSize := by
    obtain hgive | ⟨hroom, hgive⟩ := l.pool.giveBack_cases now e
    · rwa [hgive]
    · rw [hgive, List.length_append, List.length_singleton]
      exact hroom
  cases h with
  | borrow =>
    obtain ⟨rest, last, hidle, hborrow⟩ | ⟨hidle, hborrow⟩ := l.pool.borrow_cases
    · rw [hidle, List.length_append] at hlength
      rw [Lending.borrow, hborrow]
      exact Nat.le_trans (Nat.le_add_right _ _) hlength
    · rwa [Lending.borrow, hborrow]
  | giveBack now position =>
    unfold Lending.giveBack
    cases l.lent[position]? with
    | none => exact hlength
    | some e => exact hgive now e
  | adopt now e => exact hgive now e
  | sweep now => exact Nat.le_trans (l.pool.isSweptTo_sweep now).inOrder.length_le hlength

/-- After a step the evaluators in hands are some of the old ones, perhaps with one that was made or
adopted. -/
theorem Step.subperm_evaluators {Adopts : Lending ε → ε → Prop} {l' : Lending ε}
    (h : Step Adopts l l') :
    Subperm l'.evaluators l.evaluators ∨
      Subperm l'.evaluators (l.pool.make l.pool.created :: l.evaluators) ∧
        l'.pool.created = l.pool.created + 1 ∨
      ∃ e, Adopts l e ∧ Subperm l'.evaluators (e :: l.evaluators) := by
  cases h with
  | borrow =>
    obtain ⟨hperm, -⟩ | ⟨hperm, hcreated⟩ := l.evaluators_borrow
    · exact .inl hperm.subperm
    · exact .inr (.inl ⟨hperm.subperm, hcreated⟩)
  | giveBack now position => exact .inl (l.subperm_evaluators_giveBack now position)
  | adopt now e hadopts => exact .inr (.inr ⟨e, hadopts, l.subperm_evaluators_adopt now e⟩)
  | sweep now => exact .inl (l.evaluators_sweep_sublist now).subperm

/-- The one that a step brings in was in nobody's hands, and is not to be made from then on. -/
theorem IsSound.subperm_evaluators {l' : Lending ε} (hmake : Function.Injective make)
    (h : l.IsSound config make) (hstep : Step IsForeign l l') :
    Subperm l'.evaluators l.evaluators ∨
      ∃ e, e ∉ l.evaluators ∧ (∀ n, l'.pool.created ≤ n → make n ≠ e) ∧
        Subperm l'.evaluators (e :: l.evaluators) := by
  obtain ⟨-, rfl, -, -, hunmade⟩ := h
  obtain hsub | ⟨hsub, hcreated⟩ | ⟨e, hforeign, hsub⟩ := hstep.subperm_evaluators
  · exact .inl hsub
  · refine .inr ⟨_, hunmade _ (Nat.le_refl _), ?_, hsub⟩
    intro n hn heq
    have := hmake heq
    omega
  · refine .inr ⟨e, hforeign.notMem, ?_, hsub⟩
    intro n hn heq
    exact hforeign.neMake n (Nat.le_trans hstep.frame.2.2 hn) heq.symm

theorem IsSound.step {l' : Lending ε} (hmake : Function.Injective make) (h : l.IsSound config make)
    (hstep : Step IsForeign l l') : l'.IsSound config make := by
  have hsub := h.subperm_evaluators hmake hstep
  obtain ⟨rfl, rfl, hlength, hnodup, hunmade⟩ := h
  obtain ⟨hconfig, hmake', hcreated⟩ := hstep.frame
  refine ⟨hconfig, hmake', hstep.length_le hlength, ?_, ?_⟩
  · obtain hsub | ⟨e, hnew, -, hsub⟩ := hsub
    · exact nodup_of_subperm hsub hnodup
    · exact nodup_of_subperm hsub (List.nodup_cons.2 ⟨hnew, hnodup⟩)
  · intro n hn hmem
    obtain hsub | ⟨e, -, hne, hsub⟩ := hsub
    · exact hunmade n (Nat.le_trans hcreated hn) (hsub.subset hmem)
    · obtain heq | hold := List.mem_cons.1 (hsub.subset hmem)
      · exact hne n hn heq
      · exact hunmade n (Nat.le_trans hcreated hn) hold

theorem isSound_start (hsize : config.minSize ≤ config.maxSize) (hmake : Function.Injective make)
    (now : Nat) : (start config make now).IsSound config make := by
  have hevaluators : (start config make now).evaluators = (List.range config.minSize).map make := by
    simp [evaluators, EvaluatorPool.evaluators, start, EvaluatorPool.start]
  refine ⟨rfl, rfl, ?_, ?_, ?_⟩
  · simpa [start, EvaluatorPool.start] using hsize
  · rw [hevaluators]
    exact List.Nodup.map hmake List.nodup_range
  · intro n hn hmem
    rw [hevaluators, List.mem_map_of_injective hmake, List.mem_range] at hmem
    exact Nat.not_lt.2 hn hmem

/-- A pool is sound whatever has happened to it. -/
theorem isSound_of_reachable (hsize : config.minSize ≤ config.maxSize)
    (hmake : Function.Injective make) {now : Nat}
    (h : Relation.ReflTransGen (Step IsForeign) (start config make now) l) :
    l.IsSound config make := by
  induction h with
  | refl => exact isSound_start hsize hmake now
  | tail _ hstep ih => exact ih.step hmake hstep

/-- Evaluators are borrowed and returned, evaluators from outside are adopted, and the pool is swept,
in any order and at any times. At every moment the idle evaluators are within the maximum, no evaluator
is idle twice, or idle and lent, or lent twice, and a sweep does what `EvaluatorPool.IsSweptTo` says. -/
theorem lends_once (hsize : config.minSize ≤ config.maxSize) (hmake : Function.Injective make)
    {started : Nat} (h : Relation.ReflTransGen (Step IsForeign) (start config make started) l) :
    l.pool.idle.length ≤ config.maxSize ∧ (l.pool.evaluators ++ l.lent).Nodup ∧
      ∀ now, l.pool.IsSweptTo now (l.pool.sweep now).1 (l.pool.sweep now).2 := by
  have hsound := isSound_of_reachable hsize hmake h
  exact ⟨hsound.length_le, hsound.nodup, l.pool.isSweptTo_sweep⟩

/-- At least one and at most two evaluators are idle, and may be so for 10 seconds. -/
def smallPoolConfig : PoolConfig where
  minSize := 1
  maxSize := 2
  idleTimeout := 10

/-- A small pool. The evaluators it makes are on the left, those from outside are on the right. -/
def smallStart : Lending (Nat ⊕ Nat) :=
  start smallPoolConfig .inl 0

/-- Two evaluators were borrowed from it, one of them was returned after 3 seconds, and another one was
adopted after 5. -/
def smallLending : Lending (Nat ⊕ Nat) where
  pool := ⟨smallPoolConfig, .inl, 2, [⟨.inl 1, 3⟩, ⟨.inr 0, 5⟩]⟩
  lent := [.inl 0]

theorem reachable_smallLending : Relation.ReflTransGen (Step IsForeign) smallStart smallLending := by
  have hborrowed : Relation.ReflTransGen (Step IsForeign) smallStart smallStart.borrow.2.borrow.2 :=
    (Relation.ReflTransGen.single (.borrow smallStart)).tail (.borrow _)
  have hforeign : (smallStart.borrow.2.borrow.2.giveBack 3 1).IsForeign (.inr 0) := by
    have hnew : Sum.inr 0 ∉ [Sum.inl 1, Sum.inl 0] := by simp
    refine ⟨hnew, ?_⟩
    intro n _ h
    cases h
  exact (hborrowed.tail (.giveBack _ 3 1)).tail (.adopt _ 5 _ hforeign)

/-- After a quarter of a minute a sweep drops the one from outside. -/
theorem lends_once_smallLending :
    smallPoolConfig.minSize ≤ smallPoolConfig.maxSize ∧
      Function.Injective (Sum.inl : Nat → Nat ⊕ Nat) ∧
      smallLending.pool.idle.length ≤ 2 ∧
      (smallLending.pool.evaluators ++ smallLending.lent).Nodup ∧
      smallLending.pool.IsSweptTo 15 1 { smallLending.pool with idle := [⟨.inl 1, 3⟩] } := by
  have hsize : smallPoolConfig.minSize ≤ smallPoolConfig.maxSize := by decide
  have hmake : Function.Injective (Sum.inl : Nat → Nat ⊕ Nat) := fun _ _ => Sum.inl.inj
  obtain ⟨hlength, hnodup, hsweep⟩ := lends_once hsize hmake reachable_smallLending
  exact ⟨hsize, hmake, hlength, hnodup, hsweep 15⟩

end Lending

end SheetPress
