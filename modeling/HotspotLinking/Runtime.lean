import HotspotLinking.Hierarchy

/-!
# Collaborators and results

What the resolver calls but does not implement (§6 of the spec): the access checker
`Reflection::verify_field_access`, the loader-constraint table behind
`SystemDictionary::check_signature_loaders`, class initialization, the method-handle
intrinsic table and the Java upcalls of JSR 292. They are fields of a `Runtime`, so every
result below holds for every collaborator; class initialization and the upcalls run on a
VM state `σ` that they may change. The other collaborators keep only their answer: the
constraints `check_signature_loaders` records, the methods `find_method_handle_intrinsic`
installs in the process-wide intrinsic table, and the klasses `klass_ref_at` loads and stores
in the constant pool (which may run a class loader's Java code) are outside the model, so no
result here says what a linkage leaves in those tables.

The results are `CallInfo` and `FieldAccessInfo`, filled in by the `set_*` functions of
`linkResolver.cpp`; constant-pool entries are read through a `ConstantPool`.
-/

namespace HotspotLinking

/-- The VM options and thread facts the resolver reads. -/
structure Flags where
  enableInvokeDynamic : Bool := true
  allowNonVirtualCalls : Bool := false
  isCompilerThread : Bool := false
deriving DecidableEq, Repr

structure Runtime (h : Hierarchy) (σ : Type) where
  flags : Flags := {}
  /-- `Reflection::verify_field_access(current, resolved, member's klass, flags,
  classloader_only)`. -/
  verifyFieldAccess : KlassId → KlassId → KlassId → AccessFlags → Bool → Bool
  /-- `SystemDictionary::check_signature_loaders(signature, loader1, loader2, is_method)`: the
  name of a type of the signature the two loaders resolve differently, if any. -/
  checkSignatureLoaders : Symbol → LoaderId → LoaderId → Bool → Except Throwable (Option Symbol)
  lookupBasicTypeSignature : Symbol → Bool → Symbol := fun signature _ => signature
  findMethodHandleIntrinsic : IntrinsicId → Symbol → Except Throwable Method :=
    fun _ _ => .error ⟨"java/lang/VirtualMachineError", []⟩
  /-- The table's intrinsics are `MethodHandle`'s, never dispatched through a vtable
  (`make_method_handle_intrinsic`). -/
  findMethodHandleIntrinsic_holder : ∀ iid signature m,
    findMethodHandleIntrinsic iid signature = .ok m →
      m.holder = h.methodHandleKlass ∧ m.vtableIndex = nonvirtualVtableIndex := by
    intro _ _ _ hm; cases hm
  shouldBeInitialized : KlassId → σ → Bool := fun _ _ => false
  /-- `Klass::initialize(CHECK)`: runs the class initialization procedure. -/
  initializeKlass : KlassId → EStateM Throwable σ Unit := fun _ => pure ()
  methodHandlesEnabled : σ → Bool := fun _ => true
  /-- Loading `java.lang.invoke.MethodHandleNatives` when it is missing or not initialized
  (`SystemDictionary::resolve_or_fail`). -/
  resolveMethodHandleNatives : EStateM Throwable σ Unit := pure ()
  findMethodHandleInvoker : Symbol → Symbol → KlassId →
    EStateM Throwable σ (Option Method × Option Oop × Option Oop) :=
    fun _ _ _ => pure (none, none, none)
  findDynamicCallSiteInvoker : KlassId → Option Oop → Symbol → Symbol →
    EStateM Throwable σ (Option Method × Option Oop × Option Oop) :=
    fun _ _ _ _ => pure (none, none, none)
  /-- `oopDesc::is_a`: an exception of the first class is an instance of the second. -/
  throwableIsA : Symbol → Symbol → Bool := fun klass super => klass == super

namespace Reflection

/-- The same runtime package: the same package name and the same defining loader. -/
def samePackage (h : Hierarchy) (k d : KlassId) : Bool :=
  (h.klass k).packageName == (h.klass d).packageName &&
    (h.klass k).classLoader == (h.klass d).classLoader

/-- Modelled from the spec: `Reflection::verify_field_access` (not under src/), the rule of
§4.3; it does not read `classloader_only`. -/
def verifyFieldAccess (h : Hierarchy) (current resolved fieldClass : KlassId)
    (access : AccessFlags) (_classloaderOnly : Bool) : Bool :=
  if access.isPublic then true
  else if access.isProtected then
    samePackage h current fieldClass ||
      h.isSubtypeOf current fieldClass &&
        (access.isStatic || current == resolved || h.isSubtypeOf current resolved)
  else if access.isPrivate then current == fieldClass
  else samePackage h current fieldClass

end Reflection

/-- The collaborators of §4.3 and §4.4 at their simplest: the access rule of the spec, and
loaders that agree on every type. -/
def Runtime.ofSpec (h : Hierarchy) (σ : Type) : Runtime h σ where
  verifyFieldAccess := Reflection.verifyFieldAccess h
  checkSignatureLoaders _ _ _ _ := .ok none

/-- The access rule of §4.3, and loaders that each define their own `Foo`: two different
loaders disagree on it. -/
def Runtime.ofSpecSeparateLoaders (h : Hierarchy) (σ : Type) : Runtime h σ :=
  { Runtime.ofSpec h σ with
    checkSignatureLoaders := fun _ loader1 loader2 _ =>
      if loader1 = loader2 then .ok none else .ok (some "Foo") }

/-- A `CallInfo`: the resolved and the selected method and klass, the vtable index, and
for method handle calls the appendix and method type. -/
structure CallInfo where
  resolvedKlass : KlassId
  selectedKlass : KlassId
  resolvedMethod : Method
  selectedMethod : Method
  vtableIndex : Int
  resolvedAppendix : Option Oop := none
  resolvedMethodType : Option Oop := none
deriving DecidableEq, Repr

namespace CallInfo

/-- `CallInfo::set_common`, its field writes only: the `-Xcomp` request to
`CompileBroker::compile_method` and the exception it can leave pending are dropped. -/
def setCommon (resolvedKlass selectedKlass : KlassId) (resolvedMethod selectedMethod : Method)
    (vtableIndex : Int) : CallInfo :=
  { resolvedKlass, selectedKlass, resolvedMethod, selectedMethod, vtableIndex }

def setStatic (resolvedKlass : KlassId) (resolvedMethod : Method) : CallInfo :=
  setCommon resolvedKlass resolvedKlass resolvedMethod resolvedMethod nonvirtualVtableIndex

/-- `CallInfo::set_interface`: a method of `java.lang.Object` keeps its vtable index, since
it can be the subject of a virtual call; any other gets none. -/
def setInterface (h : Hierarchy) (resolvedKlass selectedKlass : KlassId)
    (resolvedMethod selectedMethod : Method) : CallInfo :=
  let vtableIndex :=
    if resolvedMethod.holder = h.objectKlass then resolvedMethod.vtableIndex
    else invalidVtableIndex
  setCommon resolvedKlass selectedKlass resolvedMethod selectedMethod vtableIndex

def setVirtual (resolvedKlass selectedKlass : KlassId) (resolvedMethod selectedMethod : Method)
    (vtableIndex : Int) : CallInfo :=
  setCommon resolvedKlass selectedKlass resolvedMethod selectedMethod vtableIndex

/-- `CallInfo::set_handle`: `InternalError` when the linker returned no method. -/
def setHandle (h : Hierarchy) (resolvedMethod : Option Method)
    (resolvedAppendix resolvedMethodType : Option Oop) : Except Failure CallInfo :=
  match resolvedMethod with
  | none => .error (Failure.throw VmSymbols.javaLangInternalError)
  | some m =>
    .ok { setCommon h.methodHandleKlass h.methodHandleKlass m m nonvirtualVtableIndex with
          resolvedAppendix, resolvedMethodType }

end CallInfo

/-- A `FieldAccessInfo`: the klass declaring the field, and the field's description. -/
structure FieldAccessInfo where
  klass : KlassId
  name : Symbol
  fieldIndex : Nat
  fieldOffset : Nat
  fieldType : BasicType
  accessFlags : AccessFlags
deriving DecidableEq, Repr

def FieldAccessInfo.set (holder : KlassId) (fd : FieldInfo) : FieldAccessInfo :=
  { klass := holder, name := fd.name, fieldIndex := fd.index, fieldOffset := fd.offset,
    fieldType := BasicType.ofSignature fd.signature, accessFlags := fd.flags }

/-- The bytecodes the resolver is asked to link (`Bytecodes::Code`). -/
inductive Bytecode
  | getstatic | putstatic | getfield | putfield
  | invokevirtual | invokespecial | invokestatic | invokeinterface | invokehandle | invokedynamic
deriving DecidableEq, Repr

/-- The constant-pool entries a member reference reads: its klass (resolved, loading it if
needed, or only if already loaded), its name and its signature. -/
structure ConstantPool where
  poolHolder : KlassId
  /-- `klass_ref_at(index, CHECK)`: the klass it answers. The loading and the store into the
  pool it may do are not modelled. -/
  klassRefAt : Nat → Except Throwable KlassId
  /-- `klass_ref_at_if_loaded_check(pool, index, CHECK)`: `NULL` when not loaded. -/
  klassRefAtIfLoaded : Nat → Except Throwable (Option KlassId)
  nameRefAt : Nat → Symbol
  signatureRefAt : Nat → Symbol

end HotspotLinking
