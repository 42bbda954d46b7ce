import HotspotLinking.Lookup

/-!
# Method and field resolution

`resolve_method`, `resolve_interface_method` and `resolve_field` with the checks they make:
the access checker (with `Object.clone` made public for arrays) and the loader-constraint
oracle. `resolve_method` checks access, `resolve_interface_method` does not;
`resolve_field` initializes the field's klass before it checks loader constraints.
-/

namespace HotspotLinking

namespace LinkResolver

variable {σ : Type} {h : Hierarchy}

/-- The flags `check_method_accessability` checks: arrays override `clone` (JVMS 2.15), so
`Object.clone` reads public when the resolved klass is an array. -/
def accessabilityFlags (h : Hierarchy) (resolvedKlass selKlass : KlassId) (selMethod : Method) :
    AccessFlags :=
  if selMethod.name = VmSymbols.cloneName ∧ selKlass = h.objectKlass ∧
      (h.klass resolvedKlass).isArray = true then
    { selMethod.flags with isProtected := false, isPublic := true }
  else selMethod.flags

def checkMethodAccessability (rt : Runtime h σ) (refKlass resolvedKlass selKlass : KlassId)
    (selMethod : Method) : Except Failure Unit :=
  if rt.verifyFieldAccess refKlass resolvedKlass selKlass
      (accessabilityFlags h resolvedKlass selKlass selMethod) true then .ok ()
  else .error (Failure.throw VmSymbols.javaLangIllegalAccessError)

/-- The loader-constraint test shared by methods and fields: the oracle's exception, or a
`LinkageError` when it names a type the two loaders disagree on. -/
def checkSignatureLoaders (rt : Runtime h σ) (signature : Symbol) (loader1 loader2 : LoaderId)
    (isMethod : Bool) : Except Failure Unit :=
  match rt.checkSignatureLoaders signature loader1 loader2 isMethod with
  | .error e => .error (.thrown e)
  | .ok (some _) => .error (Failure.throw VmSymbols.javaLangLinkageError)
  | .ok none => .ok ()

/-- `LinkResolver::check_method_loader_constraints`: the loaders of the current class and of
the method's holder must agree on the signature's types. -/
def checkMethodLoaderConstraints (rt : Runtime h σ) (resolvedMethod : Method)
    (methodSignature : Symbol) (currentKlass : KlassId) : Except Failure Unit :=
  checkSignatureLoaders rt methodSignature (h.klass currentKlass).classLoader
    (h.klass resolvedMethod.holder).classLoader true

def checkFieldAccessability (rt : Runtime h σ) (refKlass resolvedKlass selKlass : KlassId)
    (fd : FieldInfo) : Except Failure Unit :=
  if rt.verifyFieldAccess refKlass resolvedKlass selKlass fd.flags true then .ok ()
  else .error (Failure.throw VmSymbols.javaLangIllegalAccessError)

def checkFieldLoaderConstraints (rt : Runtime h σ) (refKlass selKlass : KlassId)
    (sig : Symbol) : Except Failure Unit :=
  checkSignatureLoaders rt sig (h.klass refKlass).classLoader (h.klass selKlass).classLoader false

/-- Steps 2 and 3 of `resolve_method` and its JSR 292 fallback: the method found, and the
exception the fallback left pending (it becomes the cause of `NoSuchMethodError`). -/
def resolveMethodLookup (rt : Runtime h σ) (resolvedKlass : KlassId)
    (methodName methodSignature : Symbol) : Option Method × Option Throwable :=
  match lookupMethodInKlasses rt resolvedKlass methodName methodSignature with
  | some m => (some m, none)
  | none =>
    if (h.klass resolvedKlass).isArray then (none, none)
    else
      match lookupMethodInInterfaces h resolvedKlass methodName methodSignature with
      | some m => (some m, none)
      | none =>
        match lookupPolymorphicIntrinsic rt resolvedKlass methodName methodSignature with
        | .ok result => (result, none)
        | .error e => (none, some e)

/-- `THROW_MSG_CAUSE(name, message, cause)`, where a null cause adds none. -/
def throwCause (klass : Symbol) : Option Throwable → Failure
  | none => Failure.throw klass
  | some cause => .thrown (Throwable.withCause klass cause)

/-- `LinkResolver::resolve_method`: a class, never an interface, is looked up (§4.1); with
`check_access`, access and loader constraints are checked. -/
def resolveMethod (rt : Runtime h σ) (resolvedKlass : KlassId) (methodName methodSignature : Symbol)
    (currentKlass : KlassId) (checkAccess : Bool) : Except Failure Method := do
  if (h.klass resolvedKlass).isInterface then
    throw (Failure.throw VmSymbols.javaLangIncompatibleClassChangeError)
  let (found, nestedException) := resolveMethodLookup rt resolvedKlass methodName methodSignature
  let some resolvedMethod := found
    | throw (throwCause VmSymbols.javaLangNoSuchMethodError nestedException)
  if resolvedMethod.flags.isAbstract && !(h.klass resolvedKlass).isAbstract then
    throw (Failure.throw VmSymbols.javaLangAbstractMethodError)
  if checkAccess then
    checkMethodAccessability rt currentKlass resolvedKlass resolvedMethod.holder resolvedMethod
    checkMethodLoaderConstraints rt resolvedMethod methodSignature currentKlass
  return resolvedMethod

/-- `LinkResolver::resolve_interface_method`: with `check_access` only loader constraints are
checked, and no access. -/
def resolveInterfaceMethod (rt : Runtime h σ) (resolvedKlass : KlassId)
    (methodName methodSignature : Symbol) (currentKlass : KlassId) (checkAccess : Bool) :
    Except Failure Method := do
  if !(h.klass resolvedKlass).isInterface then
    throw (Failure.throw VmSymbols.javaLangIncompatibleClassChangeError)
  let found ← lookupInstanceMethodInKlasses h resolvedKlass methodName methodSignature
  let found := match found with
    | some m => some m
    | none =>
      if (h.klass resolvedKlass).isArray then none
      else lookupMethodInInterfaces h resolvedKlass methodName methodSignature
  let some resolvedMethod := found
    | throw (Failure.throw VmSymbols.javaLangNoSuchMethodError)
  if checkAccess then
    checkMethodLoaderConstraints rt resolvedMethod methodSignature currentKlass
  return resolvedMethod

/-- The steps of `LinkResolver::resolve_field` before it initializes anything. -/
def findAndCheckField (rt : Runtime h σ) (pool : ConstantPool) (index : Nat) (byte : Bytecode)
    (updatePool : Bool) : Except Failure (KlassId × FieldInfo) := do
  let isStatic := byte == .getstatic || byte == .putstatic
  let isPut := byte == .putfield || byte == .putstatic
  let resolvedKlass ←
    (if updatePool then (pool.klassRefAt index).map some else pool.klassRefAtIfLoaded index)
      |>.mapError .thrown
  let field := pool.nameRefAt index
  let sig := pool.signatureRefAt index
  let some resolvedKlass := resolvedKlass
    | throw (Failure.throw VmSymbols.javaLangNoSuchFieldError)
  let some (selKlass, fd) := h.findField resolvedKlass field sig
    | throw (Failure.throw VmSymbols.javaLangNoSuchFieldError)
  let refKlass := pool.poolHolder
  checkFieldAccessability rt refKlass resolvedKlass selKlass fd
  if isStatic != fd.flags.isStatic then
    throw (Failure.throw VmSymbols.javaLangIncompatibleClassChangeError)
  if isPut && fd.flags.isFinal && selKlass != pool.poolHolder then
    throw (Failure.throw VmSymbols.javaLangIllegalAccessError)
  return (selKlass, fd)

/-- `LinkResolver::resolve_field`: `findAndCheckField`, the initialization of the declaring
klass for `getstatic` and `putstatic`, then the loader constraints. -/
def resolveField (rt : Runtime h σ) (pool : ConstantPool) (index : Nat) (byte : Bytecode)
    (checkOnly updatePool : Bool) : EStateM Failure σ FieldAccessInfo := do
  let isStatic := byte == .getstatic || byte == .putstatic
  let (selKlass, fd) ← liftExcept (findAndCheckField rt pool index byte updatePool)
  (if isStatic && !checkOnly then liftThrowable (rt.initializeKlass selKlass) else pure ())
  liftExcept (checkFieldLoaderConstraints rt pool.poolHolder selKlass (pool.signatureRefAt index))
  return FieldAccessInfo.set selKlass fd

end LinkResolver

end HotspotLinking
