import HotspotLinking.Call

/-!
# Entry points

How the rest of the VM asks the resolver for a method. The interpreter links a call site of
its current method through `resolve_invoke*`: `resolve_pool` reads the member reference out of
the constant pool, and the call linkage of `Call.lean` runs with every check on, against the
receiver on the stack. The compilers ask without a receiver: the `*_or_null` functions run the
same linkages with the null and abstract checks off, and answer `NULL` (or
`invalid_vtable_index`) where the linkage throws; `resolve_method_statically` answers the method
a call bytecode names, from the pool's cache when the call site is linked already.
-/

namespace HotspotLinking

namespace LinkResolver

variable {σ : Type} {h : Hierarchy}

open VmSymbols

/-! ## Constant-pool entries -/

/-- `LinkResolver::resolve_klass`: the klass a member reference names, loaded if need be. -/
def resolveKlass (pool : ConstantPool) (index : Nat) : Except Failure KlassId :=
  (pool.klassRefAt index).mapError .thrown

/-- `LinkResolver::resolve_klass_no_update`: the klass a member reference names when it is
loaded already, `NULL` otherwise. -/
def resolveKlassNoUpdate (pool : ConstantPool) (index : Nat) : Except Failure (Option KlassId) :=
  (pool.klassRefAtIfLoaded index).mapError .thrown

/-- What `LinkResolver::resolve_pool` fills in for a method reference: the klass it names, the
method's name and signature, and the klass making the reference (`pool_holder()`). -/
structure MethodRef where
  resolvedKlass : KlassId
  methodName : Symbol
  methodSignature : Symbol
  currentKlass : KlassId
deriving DecidableEq, Repr

def resolvePool (pool : ConstantPool) (index : Nat) : Except Failure MethodRef := do
  let resolvedKlass ← resolveKlass pool index
  return { resolvedKlass, methodName := pool.nameRefAt index,
           methodSignature := pool.signatureRefAt index, currentKlass := pool.poolHolder }

/-! ## The interpreter's linkage of a call site -/

/-- `LinkResolver::resolve_invokestatic`: access checked, and the holder initialized. -/
def resolveInvokestatic (rt : Runtime h σ) (pool : ConstantPool) (index : Nat) :
    EStateM Failure σ CallInfo := do
  let ref ← liftExcept (resolvePool pool index)
  resolveStaticCall rt ref.resolvedKlass ref.methodName ref.methodSignature ref.currentKlass
    true true

def resolveInvokespecial (rt : Runtime h σ) (pool : ConstantPool) (index : Nat) :
    Except Failure CallInfo := do
  let ref ← resolvePool pool index
  resolveSpecialCall rt ref.resolvedKlass ref.methodName ref.methodSignature ref.currentKlass true

/-- `recv.is_null() ? (klassOop)NULL : recv->klass()`: a null receiver gets klass `0`, which
the linkages never read, since they throw `NullPointerException` first. -/
def recvrKlass (klassOf : Oop → KlassId) : Option Oop → KlassId
  | some recv => klassOf recv
  | none => 0

/-- `LinkResolver::resolve_invokevirtual`: access, the receiver and an abstract selection all
checked. -/
def resolveInvokevirtual (rt : Runtime h σ) (klassOf : Oop → KlassId) (recv : Option Oop)
    (pool : ConstantPool) (index : Nat) : Except Failure CallInfo := do
  let ref ← resolvePool pool index
  resolveVirtualCall rt recv (recvrKlass klassOf recv) ref.resolvedKlass ref.methodName
    ref.methodSignature ref.currentKlass true true

def resolveInvokeinterface (rt : Runtime h σ) (klassOf : Oop → KlassId) (recv : Option Oop)
    (pool : ConstantPool) (index : Nat) : Except Failure CallInfo := do
  let ref ← resolvePool pool index
  resolveInterfaceCall rt recv (recvrKlass klassOf recv) ref.resolvedKlass ref.methodName
    ref.methodSignature ref.currentKlass true true

def resolveInvokehandle (rt : Runtime h σ) (pool : ConstantPool) (index : Nat) :
    EStateM Failure σ CallInfo := do
  let ref ← liftExcept (resolvePool pool index)
  resolveHandleCall rt ref.resolvedKlass ref.methodName ref.methodSignature ref.currentKlass true

/-! ## The compilers' queries -/

/-- `EXCEPTION_MARK`, then on `HAS_PENDING_EXCEPTION` a `CLEAR_PENDING_EXCEPTION` and the answer
`fallback`. A failure that is no exception, a step whose effect is undefined, is not caught. -/
def clearPendingException {α : Type} (fallback : α) : Except Failure α → Except Failure α
  | .ok a => .ok a
  | .error (.thrown _) => .ok fallback
  | .error f => .error f

def linktimeResolveInterfaceMethodOrNull (rt : Runtime h σ) (resolvedKlass : KlassId)
    (methodName methodSignature : Symbol) (currentKlass : KlassId) (checkAccess : Bool) :
    Except Failure (Option Method) :=
  clearPendingException none <| some <$>
    linktimeResolveInterfaceMethod rt resolvedKlass methodName methodSignature currentKlass
      checkAccess

def linktimeResolveVirtualMethodOrNull (rt : Runtime h σ) (resolvedKlass : KlassId)
    (methodName methodSignature : Symbol) (currentKlass : KlassId) (checkAccess : Bool) :
    Except Failure (Option Method) :=
  clearPendingException none <| some <$>
    linktimeResolveVirtualMethod rt resolvedKlass methodName methodSignature currentKlass
      checkAccess

/-- `LinkResolver::resolve_virtual_call_or_null`: no receiver (`Handle()`), access checked, and
neither the receiver nor an abstract selection checked; the selected method. -/
def resolveVirtualCallOrNull (rt : Runtime h σ) (receiverKlass resolvedKlass : KlassId)
    (name signature : Symbol) (currentKlass : KlassId) : Except Failure (Option Method) :=
  clearPendingException none <| (fun info => some info.selectedMethod) <$>
    resolveVirtualCall rt none receiverKlass resolvedKlass name signature currentKlass true false

def resolveInterfaceCallOrNull (rt : Runtime h σ) (receiverKlass resolvedKlass : KlassId)
    (name signature : Symbol) (currentKlass : KlassId) : Except Failure (Option Method) :=
  clearPendingException none <| (fun info => some info.selectedMethod) <$>
    resolveInterfaceCall rt none receiverKlass resolvedKlass name signature currentKlass true false

/-- `LinkResolver::resolve_virtual_vtable_index`: the vtable index of the call
`resolve_virtual_call_or_null` makes, `invalid_vtable_index` where it throws. -/
def resolveVirtualVtableIndex (rt : Runtime h σ) (receiverKlass resolvedKlass : KlassId)
    (name signature : Symbol) (currentKlass : KlassId) : Except Failure Int :=
  clearPendingException invalidVtableIndex <| (fun info => info.vtableIndex) <$>
    resolveVirtualCall rt none receiverKlass resolvedKlass name signature currentKlass true false

/-- `LinkResolver::resolve_static_call_or_null`: access checked, the holder not initialized, so
that the VM state `vm` is only read. -/
def resolveStaticCallOrNull (rt : Runtime h σ) (resolvedKlass : KlassId) (name signature : Symbol)
    (currentKlass : KlassId) (vm : σ) : Except Failure (Option Method) :=
  clearPendingException none <|
    match resolveStaticCall rt resolvedKlass name signature currentKlass true false vm with
    | .ok info _ => .ok (some info.selectedMethod)
    | .error f _ => .error f

def resolveSpecialCallOrNull (rt : Runtime h σ) (resolvedKlass : KlassId) (name signature : Symbol)
    (currentKlass : KlassId) : Except Failure (Option Method) :=
  clearPendingException none <| (fun info => some info.selectedMethod) <$>
    resolveSpecialCall rt resolvedKlass name signature currentKlass true

/-! ## The method a bytecode names -/

/-- What `resolve_method_statically` reads of a constant pool besides its references. -/
structure PoolCache where
  hasPreresolution : Bool
  /-- `constantPoolOopDesc::method_at_if_loaded(pool, index)`: the method the call site's cache
  entry is linked to, `NULL` while it is not. -/
  methodAtIfLoaded : Nat → Option Method

/-- Modelled from the spec: `MethodHandles::is_signature_polymorphic_name(klass, name)`
(not under src/), a name of the fixed set of §4.5 asked of `MethodHandle`. -/
def isSignaturePolymorphicName (h : Hierarchy) (klass : KlassId) (name : Symbol) : Bool :=
  klass == h.methodHandleKlass && signaturePolymorphicNameId name != .none

/-- `LinkResolver::resolve_method_statically`: the method a call bytecode names, from the
pool's cache when it is usable, else by the resolution of the bytecode's kind. -/
def resolveMethodStatically (rt : Runtime h σ) (pool : ConstantPool) (cache : PoolCache)
    (code : Bytecode) (index : Nat) : Except Failure (Method × KlassId) := do
  if code = .invokedynamic then
    let resolvedKlass := h.methodHandleKlass
    let resolvedMethod ←
      resolveMethod rt resolvedKlass invokeName (pool.signatureRefAt index) pool.poolHolder true
    return (resolvedMethod, resolvedKlass)
  let resolvedKlass ← resolveKlass pool index
  let methodName := pool.nameRefAt index
  let methodSignature := pool.signatureRefAt index
  let currentKlass := pool.poolHolder
  if cache.hasPreresolution || (resolvedKlass == h.methodHandleKlass &&
      isSignaturePolymorphicName h resolvedKlass methodName) then
    if let some resultOop := cache.methodAtIfLoaded index then
      return (resultOop, resolvedKlass)
  if code = .invokeinterface then
    let resolvedMethod ←
      resolveInterfaceMethod rt resolvedKlass methodName methodSignature currentKlass true
    return (resolvedMethod, resolvedKlass)
  else
    let resolvedMethod ←
      resolveMethod rt resolvedKlass methodName methodSignature currentKlass true
    return (resolvedMethod, resolvedKlass)

end LinkResolver

end HotspotLinking
