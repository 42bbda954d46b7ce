import Mathlib.Logic.Relation
import HotspotLinking.Oops

/-!
# Class loader dependencies

`ClassLoaderDependencies` (classLoaderDependencies.cpp) records that the classes of one
loader refer to those of another, so that the other stays alive as long as the first. A
loader owns a list of two-element `objArrayOop` nodes, the loader at index 0 and the next
node at index 1, whose head `java_lang_ClassLoader::dependencies` hands out with both slots
`NULL`. `add` walks the list without a lock to see whether the dependency is there already,
allocates a node, and `locked_add` walks again under the lock on the head, from the last
node the first walk saw, before it fills the head's empty slot or links the node at the end.

Any number of threads may record dependencies of one loader at once. The model is an
interleaving machine over the shared heap: each thread has a program counter in
`record_dependency`, `add` or `locked_add` with the locals live there, and one step runs one
load of a node's slot in `add`'s unlocked loop, one iteration of the other loops, one
allocation or one write. An iteration of `locked_add`'s loop loads both slots of a node in one
step: every write to the list is made under the lock it holds. The lock is a field naming its
holder.
-/

namespace HotspotLinking

namespace ClassLoaderDependencies

/-- A dependency node, the `objArrayOop` of length two that `add` allocates: the loader at
index 0 and the next node at index 1. Nodes are heap addresses. -/
structure Node where
  loader : Option LoaderId := none
  next : Option Nat := none
deriving DecidableEq, Repr

/-- What the threads share: the loaders' parents, the from-loader, each thread's to-loader,
and the head of the from-loader's list (`java_lang_ClassLoader::dependencies`). -/
structure Setup (τ : Type) where
  parent : LoaderId → Option LoaderId
  fromLoader : Option LoaderId
  toLoader : τ → Option LoaderId
  listHead : Nat

/-- A thread's program counter, with the locals that are live there. -/
inductive Pc
  /-- The entry of `record_dependency`. -/
  | recordDependency
  /-- The loop of `record_dependency` at `current_class_loader_oop`. -/
  | parentWalk (current : LoaderId)
  /-- The unlocked loop of `add` at `ok`, having seen `last`: the test `ok->obj_at(0)`. -/
  | walk (ok last : Option Nat)
  /-- `ok = (objArrayOop)ok->obj_at(1)`, slot 0 of `ok` having held another loader. -/
  | walkNext (ok : Nat)
  /-- `oopFactory::new_objectArray(2, CHECK)`, the walk having stopped at `last`. -/
  | allocate (last : Nat)
  /-- `ObjectLocker ol(list_head, THREAD)` in `locked_add`, waiting for the lock. -/
  | lock (lastHandle newDependency : Nat)
  /-- The loop of `locked_add` at `end`, having seen `last`, under the lock. -/
  | lockedWalk (cursor last : Option Nat) (newDependency : Nat)
  /-- Returned normally. -/
  | done
  /-- Returned with the allocation's exception pending. -/
  | threw
deriving DecidableEq, Repr

namespace Pc

/-- The thread is inside the scope of `locked_add`'s `ObjectLocker`. -/
def holdsLock : Pc → Bool
  | lockedWalk .. => true
  | _ => false

/-- The node the thread has allocated and not yet handed to `locked_add`'s write. -/
def newDependency : Pc → Option Nat
  | lock _ n | lockedWalk _ _ n => some n
  | _ => none

end Pc

/-- The heap of nodes, the address the next allocation takes, the holder of the lock on the
list head, and each thread's program counter. -/
structure State (τ : Type) where
  heap : Nat → Node
  top : Nat
  owner : Option τ
  pc : τ → Pc

variable {τ : Type} [DecidableEq τ]

def State.setPc (s : State τ) (t : τ) (p : Pc) : State τ :=
  { s with pc := Function.update s.pc t p }

/-- Every thread at the entry of `record_dependency`, and the head the only node allocated,
both its slots `NULL`. -/
def initial (c : Setup τ) : State τ where
  heap _ := {}
  top := c.listHead + 1
  owner := none
  pc _ := .recordDependency

/-- The write that ends `locked_add`: fill slot 0 of `last` if it is `NULL`, else link
`newDependency` after `last`. -/
def lockedAddWrite (heap : Nat → Node) (last newDependency : Nat) : Nat → Node :=
  if (heap last).loader = none then
    Function.update heap last { heap last with loader := (heap newDependency).loader }
  else
    Function.update heap last { heap last with next := some newDependency }

theorem lockedAddWrite_of_ne {heap : Nat → Node} {last newDependency m : Nat} (h : m ≠ last) :
    lockedAddWrite heap last newDependency m = heap m := by
  unfold lockedAddWrite
  split <;> exact Function.update_noteq h _ _

theorem lockedAddWrite_of_null {heap : Nat → Node} {last newDependency : Nat}
    (h : (heap last).loader = none) :
    lockedAddWrite heap last newDependency last =
      { heap last with loader := (heap newDependency).loader } := by
  simp [lockedAddWrite, h]

theorem lockedAddWrite_of_ne_null {heap : Nat → Node} {last newDependency : Nat}
    (h : (heap last).loader ≠ none) :
    lockedAddWrite heap last newDependency last =
      { heap last with next := some newDependency } := by
  simp [lockedAddWrite, h]

/-- One step of thread `t`: `none` when `t` cannot move, because it has returned, waits for
the lock, or fails an `assert`. `outOfMemory` decides whether `new_objectArray` throws. -/
def step (c : Setup τ) (s : State τ) (t : τ) (outOfMemory : Bool) : Option (State τ) :=
  match s.pc t with
  | .recordDependency =>
    match c.toLoader t, c.fromLoader with
    | some _, some fromLoader => some (s.setPc t (.parentWalk fromLoader))
    | _, _ => some (s.setPc t .done)
  | .parentWalk current =>
    if some current = c.toLoader t then some (s.setPc t .done)
    else
      match c.parent current with
      | some parent => some (s.setPc t (.parentWalk parent))
      | none => some (s.setPc t (.walk (some c.listHead) none))
  | .walk (some ok) _ =>
    if (s.heap ok).loader = c.toLoader t then some (s.setPc t .done)
    else some (s.setPc t (.walkNext ok))
  | .walkNext ok => some (s.setPc t (.walk (s.heap ok).next (some ok)))
  | .walk none (some last) => some (s.setPc t (.allocate last))
  | .walk none none => none
  | .allocate last =>
    if outOfMemory then some (s.setPc t .threw)
    else
      some { s.setPc t (.lock last s.top) with
        heap := Function.update s.heap s.top { loader := c.toLoader t }
        top := s.top + 1 }
  | .lock lastHandle newDependency =>
    if s.owner = none then
      some { s.setPc t (.lockedWalk (some lastHandle) none newDependency) with owner := some t }
    else none
  | .lockedWalk (some cursor) _ newDependency =>
    if (s.heap cursor).loader = (s.heap newDependency).loader then
      some { s.setPc t .done with owner := none }
    else some (s.setPc t (.lockedWalk (s.heap cursor).next (some cursor) newDependency))
  | .lockedWalk none (some last) newDependency =>
    some { s.setPc t .done with
      heap := lockedAddWrite s.heap last newDependency
      owner := none }
  | .lockedWalk none none _ => none
  | .done | .threw => none

def Step (c : Setup τ) (s s' : State τ) : Prop :=
  ∃ t outOfMemory, step c s t outOfMemory = some s'

def Reachable (c : Setup τ) (s : State τ) : Prop :=
  Relation.ReflTransGen (Step c) (initial c) s

def run (c : Setup τ) (s : State τ) : List (τ × Bool) → Option (State τ)
  | [] => some s
  | (t, outOfMemory) :: schedule => (step c s t outOfMemory).bind fun s' => run c s' schedule

theorem reachable_of_run {c : Setup τ} {s s' : State τ} (hs : Reachable c s)
    (schedule : List (τ × Bool)) (hrun : run c s schedule = some s') : Reachable c s' := by
  induction schedule generalizing s with
  | nil => cases hrun; exact hs
  | cons e schedule ih =>
    obtain ⟨t, outOfMemory⟩ := e
    cases hstep : step c s t outOfMemory with
    | none => simp [run, hstep] at hrun
    | some s₁ =>
      simp only [run, hstep, Option.some_bind] at hrun
      exact ih (Relation.ReflTransGen.tail hs ⟨t, outOfMemory, hstep⟩) hrun

end ClassLoaderDependencies

end HotspotLinking
