/-!
# Pools of evaluators

Evaluators are lent out and taken back, so that a new one is made only when none is idle. The last one
returned is lent first. A sweep drops evaluators that have been idle too long, but keeps a minimum.
Times are counted from some start, in seconds or in any finer unit in which the timeout is counted too.
-/

namespace SheetPress

/-- How a pool is run. -/
structure PoolConfig where
  /-- The evaluators made at the start and kept by sweeps. -/
  minSize : Nat := 2
  /-- The evaluators kept idle; those returned beyond them are dropped. -/
  maxSize : Nat := 10
  /-- The time between sweeps; 0 for no sweeps. -/
  sweepInterval : Nat := 300
  /-- The time an evaluator may be idle before a sweep may drop it. -/
  idleTimeout : Nat := 600
  deriving DecidableEq, Repr

/-- An evaluator that waits to be lent. -/
structure IdleEvaluator (ε : Type) where
  evaluator : ε
  returnedAt : Nat
  deriving DecidableEq, Repr

/-- A pool of evaluators. The `n`-th evaluator that it makes is `make n`. -/
structure EvaluatorPool (ε : Type) where
  config : PoolConfig
  make : Nat → ε
  /-- How many evaluators were made so far. -/
  created : Nat
  /-- The idle evaluators, the one returned last at the end. -/
  idle : List (IdleEvaluator ε)

namespace EvaluatorPool

variable {ε : Type}

/-- A new pool with its minimum of evaluators. -/
def start (config : PoolConfig) (make : Nat → ε) (now : Nat) : EvaluatorPool ε where
  config
  make
  created := config.minSize
  idle := (List.range config.minSize).map fun n => ⟨make n, now⟩

/-- Lends the evaluator that was returned last, or a new one if none is idle. -/
def borrow (p : EvaluatorPool ε) : ε × EvaluatorPool ε :=
  match p.idle.getLast? with
  | some last => (last.evaluator, { p with idle := p.idle.dropLast })
  | none => (p.make p.created, { p with created := p.created + 1 })

/-- Takes an evaluator back, or drops it if enough are idle. -/
def giveBack (p : EvaluatorPool ε) (now : Nat) (evaluator : ε) : EvaluatorPool ε :=
  if p.idle.length < p.config.maxSize then { p with idle := p.idle ++ [⟨evaluator, now⟩] } else p

/-- The evaluators that a sweep keeps when it has kept some already: those within the minimum and
those that have not been idle for the whole timeout. -/
def keepIdle (config : PoolConfig) (now : Nat) :
    Nat → List (IdleEvaluator ε) → List (IdleEvaluator ε)
  | _, [] => []
  | kept, item :: rest =>
    if kept < config.minSize ∨ now - item.returnedAt < config.idleTimeout then
      item :: keepIdle config now (kept + 1) rest
    else keepIdle config now kept rest

/-- Drops evaluators that have been idle too long; returns how many. -/
def sweep (p : EvaluatorPool ε) (now : Nat) : Nat × EvaluatorPool ε :=
  let kept := keepIdle p.config now 0 p.idle
  (p.idle.length - kept.length, { p with idle := kept })

/-- Borrows an evaluator for one use. -/
def use {α : Type} (p : EvaluatorPool ε) (now : Nat) (f : ε → α × ε) : α × EvaluatorPool ε :=
  let (evaluator, p) := p.borrow
  let (result, evaluator) := f evaluator
  (result, p.giveBack now evaluator)

end EvaluatorPool

/-- A pool with the evaluators it has lent, the one lent first at the front. -/
structure Lending (ε : Type) where
  pool : EvaluatorPool ε
  lent : List ε := []

namespace Lending

variable {ε : Type}

/-- Lends one more evaluator. -/
def borrow (l : Lending ε) : ε × Lending ε :=
  let (evaluator, pool) := l.pool.borrow
  (evaluator, ⟨pool, l.lent ++ [evaluator]⟩)

/-- Takes back the lent evaluator at a position. -/
def giveBack (l : Lending ε) (now position : Nat) : Lending ε :=
  match l.lent[position]? with
  | some evaluator => ⟨l.pool.giveBack now evaluator, l.lent.eraseIdx position⟩
  | none => l

/-- Takes back all lent evaluators, the one lent first at first. -/
def giveBackAll (l : Lending ε) (now : Nat) : Lending ε :=
  ⟨l.lent.foldl (fun pool evaluator => pool.giveBack now evaluator) l.pool, []⟩

end Lending

end SheetPress
