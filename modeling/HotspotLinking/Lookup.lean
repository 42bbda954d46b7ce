import HotspotLinking.Runtime

/-!
# Member lookup

The lookups of `linkResolver.cpp` over the Type Registry: the class-chain lookup
`lookup_method_in_klasses`, its instance-only variant `lookup_instance_method_in_klasses`,
the interface search, the miranda slot search and the JSR 292 fallback
`lookup_polymorphic_method`.

`lookup_instance_method_in_klasses` restarts its lookup at the superclass of each static
method it meets, and never asks whether there is one: from a static method of `Object` it
looks up methods of a `NULL` klass. The model keeps that step as the `nullKlass` failure.
-/

namespace HotspotLinking

theorem except_bind_eq_ok {ε α β : Type} {x : Except ε α} {f : α → Except ε β} {b : β} :
    x >>= f = .ok b ↔ ∃ a, x = .ok a ∧ f a = .ok b := by
  cases x <;> simp [bind, Except.bind]

namespace LinkResolver

variable {σ : Type} {h : Hierarchy}

/-- `LinkResolver::lookup_method_in_klasses`: the uncached lookup; a signature-polymorphic
method is not linked directly, except from an array klass. -/
def lookupMethodInKlasses (rt : Runtime h σ) (klass : KlassId) (name signature : Symbol) :
    Option Method :=
  match h.uncachedLookupMethod klass name signature with
  | none => none
  | some m =>
    if (h.klass klass).isArray then some m
    else if rt.flags.enableInvokeDynamic && m.intrinsicId.isSignaturePolymorphic then none
    else some m

variable (h) in
/-- The `while` loop of `lookup_instance_method_in_klasses` on `fuel`: a static result is
looked up again from its holder's superclass. -/
def lookupInstanceUpTo (name signature : Symbol) : Nat → KlassId → Except Failure (Option Method)
  | 0, _ => .ok none
  | fuel + 1, klass =>
    match h.uncachedLookupMethod klass name signature with
    | none => .ok none
    | some m =>
      if m.flags.isStatic then
        match (h.klass m.holder).super with
        | none => .error .nullKlass
        | some superKlass => lookupInstanceUpTo name signature fuel superKlass
      else .ok (some m)

variable (h) in
/-- `LinkResolver::lookup_instance_method_in_klasses`: "returns first instance method". -/
def lookupInstanceMethodInKlasses (klass : KlassId) (name signature : Symbol) :
    Except Failure (Option Method) :=
  lookupInstanceUpTo h name signature (h.rank klass + 1) klass

variable (h) in
def lookupMethodInInterfaces (klass : KlassId) (name signature : Symbol) : Option Method :=
  h.lookupMethodInAllInterfaces klass name signature

variable (h) in
def vtableIndexOfMirandaMethod (klass : KlassId) (name signature : Symbol) : Int :=
  h.indexOfMiranda klass name signature

/-- The intrinsic branch of `LinkResolver::lookup_polymorphic_method`, all it does with a
`NULL` appendix pointer, as `resolve_method` calls it. -/
def lookupPolymorphicIntrinsic (rt : Runtime h σ) (klass : KlassId) (name fullSignature : Symbol) :
    Except Throwable (Option Method) :=
  let iid := signaturePolymorphicNameId name
  if rt.flags.enableInvokeDynamic && klass == h.methodHandleKlass && iid != .none &&
      iid.isSignaturePolymorphicIntrinsic then
    let basicSignature := rt.lookupBasicTypeSignature fullSignature iid.isSignaturePolymorphicStatic
    (rt.findMethodHandleIntrinsic iid basicSignature).map some
  else .ok none

/-- A collaborator's exception, pending on the resolving thread. -/
def liftThrowable {α : Type} (x : EStateM Throwable σ α) : EStateM Failure σ α :=
  x.adaptExcept .thrown

def liftExcept {α : Type} (x : Except Failure α) : EStateM Failure σ α := fun s =>
  match x with
  | .ok a => .ok a s
  | .error e => .error e s

theorem eStateM_bind_eq_ok {ε α β : Type} {x : EStateM ε σ α} {f : α → EStateM ε σ β}
    {s s' : σ} {b : β} :
    (x >>= f) s = .ok b s' ↔ ∃ a s₁, x s = .ok a s₁ ∧ f a s₁ = .ok b s' := by
  show EStateM.bind x f s = _ ↔ _
  unfold EStateM.bind
  cases x s <;> simp [and_assoc]

@[simp]
theorem eStateM_pure_eq_ok {ε α : Type} {a b : α} {s s' : σ} :
    (pure a : EStateM ε σ α) s = .ok b s' ↔ a = b ∧ s = s' := by
  show EStateM.Result.ok a s = _ ↔ _
  simp

@[simp]
theorem liftExcept_eq_ok {α : Type} {x : Except Failure α} {a : α} {s s' : σ} :
    liftExcept x s = .ok a s' ↔ x = .ok a ∧ s = s' := by
  unfold liftExcept
  cases x <;> simp

@[simp]
theorem liftThrowable_eq_ok {α : Type} {x : EStateM Throwable σ α} {a : α} {s s' : σ} :
    liftThrowable x s = .ok a s' ↔ x s = .ok a s' := by
  unfold liftThrowable
  show EStateM.adaptExcept _ x s = _ ↔ _
  unfold EStateM.adaptExcept
  cases x s <;> simp

/-- `LinkResolver::lookup_polymorphic_method` as `resolve_handle_call` calls it: the
intrinsic branch, or an adapter spun by Java code for `invoke` and `invokeExact`. -/
def lookupPolymorphicMethod (rt : Runtime h σ) (klass : KlassId) (name fullSignature : Symbol)
    (currentKlass : KlassId) : EStateM Failure σ (Option (Method × Option Oop × Option Oop)) :=
  let iid := signaturePolymorphicNameId name
  if rt.flags.enableInvokeDynamic && klass == h.methodHandleKlass && iid != .none then
    if iid.isSignaturePolymorphicIntrinsic then
      match lookupPolymorphicIntrinsic rt klass name fullSignature with
      | .ok result => pure (result.map fun m => (m, none, none))
      | .error e => throw (.thrown e)
    else if iid == .invokeGeneric && !rt.flags.isCompilerThread then do
      let enabled ← EStateM.get.map rt.methodHandlesEnabled
      if !enabled then liftThrowable rt.resolveMethodHandleNatives
      let (result, appendix, methodType) ←
        liftThrowable (rt.findMethodHandleInvoker name fullSignature currentKlass)
      pure (result.map fun m => (m, appendix, methodType))
    else pure none
  else pure none

/-! ## Lookup lemmas -/

theorem lookupMethodInKlasses_eq_some {rt : Runtime h σ} {klass : KlassId}
    {name signature : Symbol} {m : Method}
    (hm : lookupMethodInKlasses rt klass name signature = some m) :
    h.uncachedLookupMethod klass name signature = some m := by
  unfold lookupMethodInKlasses at hm
  split at hm
  · cases hm
  · split at hm
    · cases hm; assumption
    · split at hm
      · cases hm
      · cases hm; assumption

theorem lookupInstanceUpTo_congr {name signature : Symbol} {n m : Nat} {klass : KlassId}
    (hn : h.rank klass < n) (hm : h.rank klass < m) :
    lookupInstanceUpTo h name signature n klass = lookupInstanceUpTo h name signature m klass := by
  induction n generalizing m klass with
  | zero => omega
  | succ n ih =>
    obtain ⟨m, rfl⟩ : ∃ m', m = m' + 1 := ⟨m - 1, by omega⟩
    simp only [lookupInstanceUpTo]
    cases hm : h.uncachedLookupMethod klass name signature with
    | none => rfl
    | some m =>
      simp only
      split
      · cases hs : (h.klass m.holder).super with
        | none => rfl
        | some s =>
          have hlt := h.rank_super _ _ hs
          have hle := Hierarchy.rank_le_of_mem_superChain (Hierarchy.uncachedLookupMethod_holder_mem hm)
          exact ih (by omega) (by omega)
      · rfl

theorem lookupInstanceMethodInKlasses_eq (klass : KlassId) (name signature : Symbol) :
    lookupInstanceMethodInKlasses h klass name signature =
      match h.uncachedLookupMethod klass name signature with
      | none => .ok none
      | some m =>
        if m.flags.isStatic then
          match (h.klass m.holder).super with
          | none => .error .nullKlass
          | some superKlass => lookupInstanceMethodInKlasses h superKlass name signature
        else .ok (some m) := by
  unfold lookupInstanceMethodInKlasses
  simp only [lookupInstanceUpTo]
  cases hm : h.uncachedLookupMethod klass name signature with
  | none => rfl
  | some m =>
    simp only
    split
    · cases hs : (h.klass m.holder).super with
      | none => rfl
      | some s =>
        have hlt := h.rank_super _ _ hs
        have hle := Hierarchy.rank_le_of_mem_superChain (Hierarchy.uncachedLookupMethod_holder_mem hm)
        exact lookupInstanceUpTo_congr (n := h.rank klass) (m := h.rank s + 1) (by omega) (by omega)
    · rfl

end LinkResolver

end HotspotLinking
