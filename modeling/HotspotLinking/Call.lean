import HotspotLinking.Resolve

/-!
# Call resolution

The five kinds of call linkage, each a link-time part (resolution and its checks) followed by
a run-time part (selection from the receiver): `invokestatic`, `invokespecial`,
`invokevirtual` (vtable or miranda slot, or the resolved method itself when it is never
overridden), `invokeinterface` (a class-chain lookup from the receiver), and the method-handle
and `invokedynamic` linkages of JSR 292.
-/

namespace HotspotLinking

namespace LinkResolver

variable {σ : Type} {h : Hierarchy}

open VmSymbols

/-! ## invokestatic -/

def linktimeResolveStaticMethod (rt : Runtime h σ) (resolvedKlass : KlassId)
    (methodName methodSignature : Symbol) (currentKlass : KlassId) (checkAccess : Bool) :
    Except Failure Method := do
  let resolvedMethod ← resolveMethod rt resolvedKlass methodName methodSignature currentKlass checkAccess
  if !resolvedMethod.flags.isStatic then
    throw (Failure.throw javaLangIncompatibleClassChangeError)
  return resolvedMethod

/-- `LinkResolver::resolve_static_call`: resolve, take the method's holder as the resolved
klass, and when asked initialize it and resolve again from it. -/
def resolveStaticCall (rt : Runtime h σ) (resolvedKlass : KlassId) (methodName methodSignature : Symbol)
    (currentKlass : KlassId) (checkAccess initializeClass : Bool) : EStateM Failure σ CallInfo := do
  let resolvedMethod ← liftExcept <|
    linktimeResolveStaticMethod rt resolvedKlass methodName methodSignature currentKlass checkAccess
  let resolvedKlass := resolvedMethod.holder
  let state ← get
  if initializeClass && rt.shouldBeInitialized resolvedKlass state then
    liftThrowable (rt.initializeKlass resolvedKlass)
    let resolvedMethod ← liftExcept <|
      linktimeResolveStaticMethod rt resolvedKlass methodName methodSignature currentKlass checkAccess
    return CallInfo.setStatic resolvedKlass resolvedMethod
  return CallInfo.setStatic resolvedKlass resolvedMethod

/-! ## invokespecial -/

/-- `LinkResolver::linktime_resolve_special_method`: an `<init>` must be found in the class
named, and the method must not be static. -/
def linktimeResolveSpecialMethod (rt : Runtime h σ) (resolvedKlass : KlassId)
    (methodName methodSignature : Symbol) (currentKlass : KlassId) (checkAccess : Bool) :
    Except Failure Method := do
  let resolvedMethod ← resolveMethod rt resolvedKlass methodName methodSignature currentKlass checkAccess
  if resolvedMethod.name = objectInitializerName && resolvedMethod.holder != resolvedKlass then
    throw (Failure.throw javaLangNoSuchMethodError)
  if resolvedMethod.flags.isStatic then
    throw (Failure.throw javaLangIncompatibleClassChangeError)
  return resolvedMethod

/-- The old-style super call of `runtime_resolve_special_method`: access checked, `ACC_SUPER`
(or no non-virtual calls), the method's class a proper supertype, the method not `<init>`. -/
def isSuperCall (rt : Runtime h σ) (resolvedMethod : Method) (currentKlass : KlassId)
    (checkAccess : Bool) : Bool :=
  checkAccess && ((h.klass currentKlass).isSuper || !rt.flags.allowNonVirtualCalls) &&
    h.isSubtypeOf currentKlass resolvedMethod.holder && currentKlass != resolvedMethod.holder &&
    resolvedMethod.name != objectInitializerName

/-- The super-call lookup of `runtime_resolve_special_method`, from the current class's
superclass; a method other than the resolved one passes its own holder's loader constraints. -/
def lookupSuperMethod (rt : Runtime h σ) (resolvedMethod : Method) (currentKlass : KlassId) :
    Except Failure Method := do
  let some superKlass := (h.klass currentKlass).super
    | throw .nullKlass
  let some selMethod ←
      lookupInstanceMethodInKlasses h superKlass resolvedMethod.name resolvedMethod.signature
    | throw (Failure.throw javaLangAbstractMethodError)
  if selMethod != resolvedMethod then
    checkMethodLoaderConstraints rt selMethod selMethod.signature currentKlass
  return selMethod

/-- `LinkResolver::runtime_resolve_special_method`: the selected method, recorded as both
resolved and selected, must be neither static nor abstract. -/
def runtimeResolveSpecialMethod (rt : Runtime h σ) (resolvedMethod : Method)
    (resolvedKlass currentKlass : KlassId) (checkAccess : Bool) : Except Failure CallInfo := do
  let selMethod ←
    (if isSuperCall rt resolvedMethod currentKlass checkAccess then
      lookupSuperMethod rt resolvedMethod currentKlass
    else pure resolvedMethod)
  if selMethod.flags.isStatic then
    throw (Failure.throw javaLangIncompatibleClassChangeError)
  if selMethod.flags.isAbstract then
    throw (Failure.throw javaLangAbstractMethodError)
  return CallInfo.setStatic resolvedKlass selMethod

def resolveSpecialCall (rt : Runtime h σ) (resolvedKlass : KlassId) (methodName methodSignature : Symbol)
    (currentKlass : KlassId) (checkAccess : Bool) : Except Failure CallInfo := do
  let resolvedMethod ←
    linktimeResolveSpecialMethod rt resolvedKlass methodName methodSignature currentKlass checkAccess
  runtimeResolveSpecialMethod rt resolvedMethod resolvedKlass currentKlass checkAccess

/-! ## invokevirtual -/

def linktimeResolveVirtualMethod (rt : Runtime h σ) (resolvedKlass : KlassId)
    (methodName methodSignature : Symbol) (currentKlass : KlassId) (checkAccess : Bool) :
    Except Failure Method := do
  let resolvedMethod ← resolveMethod rt resolvedKlass methodName methodSignature currentKlass checkAccess
  if resolvedMethod.flags.isStatic then
    throw (Failure.throw javaLangIncompatibleClassChangeError)
  return resolvedMethod

/-- The selection of `runtime_resolve_virtual_method`: a miranda is read at its slot in the
resolved klass, a non-overridable method is its own selection, any other is read at its index. -/
def selectVirtualMethod (h : Hierarchy) (resolvedMethod : Method) (resolvedKlass recvKlass : KlassId) :
    Except Failure (Int × Option Method) :=
  if (h.klass resolvedMethod.holder).isInterface then do
    let vtableIndex :=
      vtableIndexOfMirandaMethod h resolvedKlass resolvedMethod.name resolvedMethod.signature
    let selectedMethod ← h.methodAtVtable recvKlass vtableIndex
    return (vtableIndex, selectedMethod)
  else
    let vtableIndex := resolvedMethod.vtableIndex
    if vtableIndex = nonvirtualVtableIndex then .ok (vtableIndex, some resolvedMethod)
    else do
      let selectedMethod ← h.methodAtVtable recvKlass vtableIndex
      return (vtableIndex, selectedMethod)

/-- `LinkResolver::runtime_resolve_virtual_method`: the null-receiver check when asked, the
selection, then no method is `AbstractMethodError`, and so is an abstract one when asked. -/
def runtimeResolveVirtualMethod (h : Hierarchy) (resolvedMethod : Method) (resolvedKlass : KlassId)
    (recv : Option Oop) (recvKlass : KlassId) (checkNullAndAbstract : Bool) :
    Except Failure CallInfo := do
  if checkNullAndAbstract && recv.isNone then
    throw (Failure.throw javaLangNullPointerException)
  let (vtableIndex, selectedMethod) ← selectVirtualMethod h resolvedMethod resolvedKlass recvKlass
  let some selectedMethod := selectedMethod
    | throw (Failure.throw javaLangAbstractMethodError)
  if checkNullAndAbstract && selectedMethod.flags.isAbstract then
    throw (Failure.throw javaLangAbstractMethodError)
  return CallInfo.setVirtual resolvedKlass recvKlass resolvedMethod selectedMethod vtableIndex

def resolveVirtualCall (rt : Runtime h σ) (recv : Option Oop) (recvKlass resolvedKlass : KlassId)
    (methodName methodSignature : Symbol) (currentKlass : KlassId)
    (checkAccess checkNullAndAbstract : Bool) : Except Failure CallInfo := do
  let resolvedMethod ←
    linktimeResolveVirtualMethod rt resolvedKlass methodName methodSignature currentKlass checkAccess
  runtimeResolveVirtualMethod h resolvedMethod resolvedKlass recv recvKlass checkNullAndAbstract

/-! ## invokeinterface -/

def linktimeResolveInterfaceMethod (rt : Runtime h σ) (resolvedKlass : KlassId)
    (methodName methodSignature : Symbol) (currentKlass : KlassId) (checkAccess : Bool) :
    Except Failure Method :=
  resolveInterfaceMethod rt resolvedKlass methodName methodSignature currentKlass checkAccess

/-- `LinkResolver::runtime_resolve_interface_method`: the method is looked up from the
receiver's klass and must be public (and, when asked, not abstract). -/
def runtimeResolveInterfaceMethod (h : Hierarchy) (resolvedMethod : Method) (resolvedKlass : KlassId)
    (recv : Option Oop) (recvKlass : KlassId) (checkNullAndAbstract : Bool) :
    Except Failure CallInfo := do
  if checkNullAndAbstract && recv.isNone then
    throw (Failure.throw javaLangNullPointerException)
  if !h.isSubtypeOf recvKlass resolvedKlass then
    throw (Failure.throw javaLangIncompatibleClassChangeError)
  let some selMethod ←
      lookupInstanceMethodInKlasses h recvKlass resolvedMethod.name resolvedMethod.signature
    | throw (Failure.throw javaLangAbstractMethodError)
  if !selMethod.flags.isPublic then
    throw (Failure.throw javaLangIllegalAccessError)
  if checkNullAndAbstract && selMethod.flags.isAbstract then
    throw (Failure.throw javaLangAbstractMethodError)
  return CallInfo.setInterface h resolvedKlass recvKlass resolvedMethod selMethod

def resolveInterfaceCall (rt : Runtime h σ) (recv : Option Oop) (recvKlass resolvedKlass : KlassId)
    (methodName methodSignature : Symbol) (currentKlass : KlassId)
    (checkAccess checkNullAndAbstract : Bool) : Except Failure CallInfo := do
  let resolvedMethod ←
    linktimeResolveInterfaceMethod rt resolvedKlass methodName methodSignature currentKlass checkAccess
  runtimeResolveInterfaceMethod h resolvedMethod resolvedKlass recv recvKlass checkNullAndAbstract

/-! ## Method handles and invokedynamic -/

/-- `LinkResolver::resolve_handle_call`: a signature-polymorphic method of `MethodHandle`,
from the intrinsic table or spun by Java code; intrinsics are access-checked. -/
def resolveHandleCall (rt : Runtime h σ) (resolvedKlass : KlassId) (methodName methodSignature : Symbol)
    (currentKlass : KlassId) (checkAccess : Bool) : EStateM Failure σ CallInfo := do
  let found ← lookupPolymorphicMethod rt resolvedKlass methodName methodSignature currentKlass
  let resolvedMethod := found.map (·.1)
  (if checkAccess && (signaturePolymorphicNameId methodName).isSignaturePolymorphicIntrinsic then do
    let some m := resolvedMethod
      | throw .nullMethod
    liftExcept (checkMethodAccessability rt currentKlass resolvedKlass m.holder m)
  else pure ())
  liftExcept <| CallInfo.setHandle h resolvedMethod (found.bind (·.2.1)) (found.bind (·.2.2))

/-- The exception `resolve_dynamic_call` leaves pending when the bootstrap method raised `e`:
a `LinkageError` that is no `BootstrapMethodError` is wrapped in one. -/
def bootstrapFailure (rt : Runtime h σ) (e : Throwable) : Throwable :=
  if rt.throwableIsA e.klass javaLangBootstrapMethodError then e
  else if !rt.throwableIsA e.klass javaLangLinkageError then e
  else Throwable.withCause javaLangBootstrapMethodError e

/-- `LinkResolver::resolve_dynamic_call`: run the bootstrap method through the collaborator,
translate its exception, and link the invoker it returns. -/
def resolveDynamicCall (rt : Runtime h σ) (bootstrapSpecifier : Option Oop)
    (methodName methodSignature : Symbol) (currentKlass : KlassId) : EStateM Failure σ CallInfo :=
  fun s =>
    match rt.findDynamicCallSiteInvoker currentKlass bootstrapSpecifier methodName methodSignature s with
    | .error e s' => .error (.thrown (bootstrapFailure rt e)) s'
    | .ok (resolvedMethod, resolvedAppendix, resolvedMethodType) s' =>
      liftExcept (CallInfo.setHandle h resolvedMethod resolvedAppendix resolvedMethodType) s'

end LinkResolver

end HotspotLinking
