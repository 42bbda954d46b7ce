import Mathlib.Logic.Relation
import HotspotLinking.Call

/-!
# Linking an invokedynamic call site

`LinkResolver::resolve_invokedynamic` (linkResolver.cpp) links one `invokedynamic` call site
through the site's entry in the constant pool cache. The entry is shared by every thread that
executes the site: its f1 is `NULL` until a publisher stores the site's adapter method (in
f2), appendix and method type and then sets f1, and from then on it never changes. The
function reads f1 twice. The first read decides whether to resolve the bootstrap specifier;
the second decides whether to return the published handle or to run the bootstrap method
through `resolve_dynamic_call`.

Any number of threads may link the site while publishers bind it, so the model is an
interleaving machine. A thread's program counter in `resolve_invokedynamic` carries the
`bootstrap_specifier` handle it holds; one step is one read of f1 or one call of a
collaborator (`move`); a publisher binds the entry while it is unbound. A ghost log keeps what
each thread read and called, in order.
-/

namespace HotspotLinking

namespace InvokeDynamic

open LinkResolver

/-- What a publisher stores before it sets f1: the adapter (`f2_as_vfinal_method`), the
appendix and the method type. -/
structure Published where
  method : Method
  appendix : Option Oop := none
  methodType : Option Oop := none
deriving DecidableEq, Repr

/-- The `CONSTANT_InvokeDynamic` reference a call site links, and the collaborators
`resolve_invokedynamic` calls. -/
structure CallSite (h : Hierarchy) (σ : Type) where
  rt : Runtime h σ
  poolHolder : KlassId
  methodName : Symbol
  methodSignature : Symbol
  /-- `pool->resolve_bootstrap_specifier_at(pool_index, CHECK)`: may run Java code and throw,
  and by the `assert` after the call never returns `NULL`. -/
  resolveBootstrapSpecifierAt : EStateM Throwable σ Oop

/-- A thread's program counter in `resolve_invokedynamic`, with its `bootstrap_specifier`
(`NULL` until it is resolved). -/
inductive Pc
  /-- The entry, before the first `cpce->is_f1_null()`. -/
  | start
  /-- f1 was `NULL`: `resolve_bootstrap_specifier_at` is next. -/
  | resolveSpecifier
  /-- The second read of f1, `if (!cpce->is_f1_null())`. -/
  | secondRead (bootstrapSpecifier : Option Oop)
  /-- `resolve_dynamic_call(result, bootstrap_specifier, ...)`. -/
  | dynamicCall (bootstrapSpecifier : Option Oop)
  /-- Returned, with the linked `CallInfo` or the exception pending. -/
  | returned (result : Except Failure CallInfo)

/-- What a thread did, as the ghost log records it. -/
inductive Event
  | firstRead (bound : Bool)
  /-- The call of `resolve_bootstrap_specifier_at`, with the specifier it returned (`none` when
  it threw). -/
  | resolveSpecifier (bootstrapSpecifier : Option Oop)
  | secondRead (bound : Bool)
  /-- The call of `resolve_dynamic_call`, which runs the bootstrap method. -/
  | dynamicCall (bootstrapSpecifier : Option Oop)
deriving DecidableEq, Repr

variable {h : Hierarchy} {σ : Type}

/-- What a thread at `pc` does next, seeing the entry `entry` and the VM state `vm`: the event
it logs, its next program counter and the VM state after; `none` once it has returned. -/
def move (c : CallSite h σ) (entry : Option Published) (vm : σ) :
    Pc → Option (Event × Pc × σ)
  | .start =>
    match entry with
    | none => some (.firstRead false, .resolveSpecifier, vm)
    | some _ => some (.firstRead true, .secondRead none, vm)
  | .resolveSpecifier =>
    match c.resolveBootstrapSpecifierAt vm with
    | .ok bsmInfo vm' => some (.resolveSpecifier (some bsmInfo), .secondRead (some bsmInfo), vm')
    | .error e vm' => some (.resolveSpecifier none, .returned (.error (.thrown e)), vm')
  | .secondRead bootstrapSpecifier =>
    match entry with
    | some p =>
      some (.secondRead true,
        .returned (CallInfo.setHandle h (some p.method) p.appendix p.methodType), vm)
    | none => some (.secondRead false, .dynamicCall bootstrapSpecifier, vm)
  | .dynamicCall bootstrapSpecifier =>
    match resolveDynamicCall c.rt bootstrapSpecifier c.methodName c.methodSignature
        c.poolHolder vm with
    | .ok ci vm' => some (.dynamicCall bootstrapSpecifier, .returned (.ok ci), vm')
    | .error f vm' => some (.dynamicCall bootstrapSpecifier, .returned (.error f), vm')
  | .returned _ => none

/-- The site's entry (`none` while f1 is `NULL`), the VM state, each thread's program
counter, and the ghost log of every thread's events. -/
structure State (τ σ : Type) where
  entry : Option Published
  vm : σ
  pc : τ → Pc
  log : List (τ × Event)

variable {τ : Type} [DecidableEq τ]

/-- Thread `t` logs `e`, moves to `p` and leaves the VM state `vm`. -/
def State.record (s : State τ σ) (t : τ) (e : Event) (p : Pc) (vm : σ) : State τ σ :=
  { s with vm, pc := Function.update s.pc t p, log := s.log ++ [(t, e)] }

def State.events (s : State τ σ) (t : τ) : List Event :=
  s.log.filterMap fun ue => if ue.1 = t then some ue.2 else none

section Record

variable (s : State τ σ) (t : τ) (e : Event) (p : Pc) (vm : σ)

@[simp]
theorem State.record_entry : (s.record t e p vm).entry = s.entry := rfl

@[simp]
theorem State.record_pc_self : (s.record t e p vm).pc t = p := Function.update_same _ _ _

@[simp]
theorem State.events_record_self : (s.record t e p vm).events t = s.events t ++ [e] := by
  simp [State.record, State.events]

variable {s t e p vm}

theorem State.record_pc_of_ne {u : τ} (hu : u ≠ t) : (s.record t e p vm).pc u = s.pc u :=
  Function.update_noteq hu _ _

theorem State.events_record_of_ne {u : τ} (hu : u ≠ t) :
    (s.record t e p vm).events u = s.events u := by
  simp [State.record, State.events, Ne.symm hu]

end Record

/-- Who moves next: a thread, or a publisher binding the site to `p`. -/
inductive Action (τ : Type)
  | thread (t : τ)
  | publish (p : Published)

def threadStep (c : CallSite h σ) (s : State τ σ) (t : τ) : Option (State τ σ) :=
  (move c s.entry s.vm (s.pc t)).map fun (e, p, vm) => s.record t e p vm

/-- A publisher sets f1 only while it is `NULL`; nothing sets it back. -/
def publish (s : State τ σ) (p : Published) : Option (State τ σ) :=
  match s.entry with
  | none => some { s with entry := some p }
  | some _ => none

omit [DecidableEq τ] in
theorem publish_eq_some {s s' : State τ σ} {p : Published} :
    publish s p = some s' ↔ s.entry = none ∧ s' = { s with entry := some p } := by
  cases hentry : s.entry <;> simp [publish, hentry, eq_comm]

def step (c : CallSite h σ) (s : State τ σ) : Action τ → Option (State τ σ)
  | .thread t => threadStep c s t
  | .publish p => publish s p

def Step (c : CallSite h σ) (s s' : State τ σ) : Prop :=
  ∃ a, step c s a = some s'

/-- Every thread at the entry of `resolve_invokedynamic`, the site bound or not. -/
def initial (entry : Option Published) (vm : σ) : State τ σ where
  entry := entry
  vm := vm
  pc _ := .start
  log := []

def Reachable (c : CallSite h σ) (entry : Option Published) (vm : σ) (s : State τ σ) : Prop :=
  Relation.ReflTransGen (Step c) (initial entry vm) s

def run (c : CallSite h σ) (s : State τ σ) : List (Action τ) → Option (State τ σ)
  | [] => some s
  | a :: schedule => (step c s a).bind fun s' => run c s' schedule

theorem reachable_of_run {c : CallSite h σ} {entry : Option Published} {vm : σ}
    {s s' : State τ σ} (hs : Reachable c entry vm s) (schedule : List (Action τ))
    (hrun : run c s schedule = some s') : Reachable c entry vm s' := by
  induction schedule generalizing s with
  | nil => cases hrun; exact hs
  | cons a schedule ih =>
    cases hstep : step c s a with
    | none => simp [run, hstep] at hrun
    | some s₁ =>
      simp only [run, hstep, Option.some_bind] at hrun
      exact ih (Relation.ReflTransGen.tail hs ⟨a, hstep⟩) hrun

end InvokeDynamic

end HotspotLinking
