import Mathlib.Data.List.Basic

/-!
# Klasses, methods and fields

The read-only data the link resolver sees of loaded classes: `instanceKlass`, `methodOop`
and `fieldDescriptor` reduced to the fields `linkResolver.cpp` reads. Klasses are addressed
by integer ids, so a hierarchy is a table from ids to klasses.
-/

namespace HotspotLinking

/-- An interned `Symbol*`: names and signatures compare by identity. -/
abbrev Symbol := String

abbrev KlassId := Nat

abbrev LoaderId := Nat

/-- An object handle (`Handle`, `oop`): only its identity matters here. -/
abbrev Oop := Nat

/-- The `AccessFlags` queries the resolver makes (`is_public()`, `is_static()`, ...). -/
structure AccessFlags where
  isPublic : Bool := false
  isPrivate : Bool := false
  isProtected : Bool := false
  isStatic : Bool := false
  isFinal : Bool := false
  isAbstract : Bool := false
deriving DecidableEq, Repr

/-- The `vmIntrinsics::ID`s the resolver tells apart: the signature-polymorphic ones of
`java.lang.invoke.MethodHandle`, and everything else. -/
inductive IntrinsicId
  | none
  | invokeGeneric
  | invokeBasic
  | linkToVirtual
  | linkToStatic
  | linkToSpecial
  | linkToInterface
  | other
deriving DecidableEq, Repr

namespace IntrinsicId

def isSignaturePolymorphic : IntrinsicId → Bool
  | invokeGeneric | invokeBasic | linkToVirtual | linkToStatic | linkToSpecial
  | linkToInterface => true
  | none | other => false

def isSignaturePolymorphicIntrinsic (iid : IntrinsicId) : Bool :=
  iid.isSignaturePolymorphic && iid != invokeGeneric

def isSignaturePolymorphicStatic : IntrinsicId → Bool
  | linkToVirtual | linkToStatic | linkToSpecial | linkToInterface => true
  | _ => false

end IntrinsicId

/-- Modelled from the spec: `MethodHandles::signature_polymorphic_name_id` (not under src/),
the "small fixed set" of signature-polymorphic names of §4.5. -/
def signaturePolymorphicNameId : Symbol → IntrinsicId
  | "invoke" | "invokeExact" => .invokeGeneric
  | "invokeBasic" => .invokeBasic
  | "linkToVirtual" => .linkToVirtual
  | "linkToStatic" => .linkToStatic
  | "linkToSpecial" => .linkToSpecial
  | "linkToInterface" => .linkToInterface
  | _ => .none

/-- `methodOopDesc::nonvirtual_vtable_index` (methodOop.hpp): no vtable dispatch is needed. -/
def nonvirtualVtableIndex : Int := -2

/-- `methodOopDesc::invalid_vtable_index` (methodOop.hpp): distinct from every valid index. -/
def invalidVtableIndex : Int := -4

/-- A `methodOop`: the method's holder, name, signature, flags, vtable index and intrinsic. -/
structure Method where
  holder : KlassId
  name : Symbol
  signature : Symbol
  flags : AccessFlags
  vtableIndex : Int := nonvirtualVtableIndex
  intrinsicId : IntrinsicId := .none
deriving DecidableEq, Repr

/-- `BasicType`, as `FieldType::basic_type` reads it off a field signature. -/
inductive BasicType
  | tBoolean | tChar | tFloat | tDouble | tByte | tShort | tInt | tLong | tObject | tArray
  | tIllegal
deriving DecidableEq, Repr

/-- `FieldType::basic_type`: the type a field signature's first character names. -/
def BasicType.ofSignature (signature : Symbol) : BasicType :=
  match signature.get 0 with
  | 'Z' => .tBoolean | 'C' => .tChar | 'F' => .tFloat | 'D' => .tDouble | 'B' => .tByte
  | 'S' => .tShort | 'I' => .tInt | 'J' => .tLong | 'L' => .tObject | '[' => .tArray
  | _ => .tIllegal

/-- A field as a klass declares it (`fieldDescriptor`). -/
structure FieldInfo where
  name : Symbol
  signature : Symbol
  flags : AccessFlags
  index : Nat
  offset : Nat
deriving DecidableEq, Repr

/-- A loaded klass: an `instanceKlass`, an interface or an array klass. `isSuper` is
`ACC_SUPER`; `vtable` holds the entries `method_at_vtable` reads, null ones included. -/
structure Klass where
  super : Option KlassId
  isInterface : Bool := false
  isArray : Bool := false
  isAbstract : Bool := false
  isSuper : Bool := true
  classLoader : LoaderId := 0
  packageName : Symbol := ""
  methods : List Method := []
  fields : List FieldInfo := []
  localInterfaces : List KlassId := []
  transitiveInterfaces : List KlassId := []
  vtable : List (Option Method) := []
deriving Repr

/-- A Java exception object as the resolver inspects it: its class, and the classes down its
chain of causes (`getCause()`, then its cause, ...). -/
structure Throwable where
  klass : Symbol
  causes : List Symbol := []
deriving DecidableEq, Repr

/-- `THROW_CAUSE(name, cause)`: a new exception of class `name` wrapping `cause`. -/
def Throwable.withCause (klass : Symbol) (cause : Throwable) : Throwable :=
  ⟨klass, cause.klass :: cause.causes⟩

/-- How a resolution ends when it does not return: an exception pending on the thread, or
a step a product build does not guard, whose effect is undefined. -/
inductive Failure
  /-- `THROW`, `THROW_MSG`, or a callee's exception passed on by `CHECK`. -/
  | thrown (e : Throwable)
  /-- A method lookup on a `NULL` klass handle. -/
  | nullKlass
  /-- A member of a `NULL` method handle read. -/
  | nullMethod
  /-- `method_at_vtable` at an index outside `[0, vtable_length)`. -/
  | vtableOutOfBounds (index : Int)
deriving DecidableEq, Repr

/-! The exception classes the resolver throws by name (`vmSymbols::java_lang_*`), and the
method names it compares against. -/

namespace VmSymbols

def javaLangIncompatibleClassChangeError : Symbol := "java/lang/IncompatibleClassChangeError"
def javaLangNoSuchMethodError : Symbol := "java/lang/NoSuchMethodError"
def javaLangNoSuchFieldError : Symbol := "java/lang/NoSuchFieldError"
def javaLangAbstractMethodError : Symbol := "java/lang/AbstractMethodError"
def javaLangIllegalAccessError : Symbol := "java/lang/IllegalAccessError"
def javaLangLinkageError : Symbol := "java/lang/LinkageError"
def javaLangNullPointerException : Symbol := "java/lang/NullPointerException"
def javaLangInternalError : Symbol := "java/lang/InternalError"
def javaLangBootstrapMethodError : Symbol := "java/lang/BootstrapMethodError"

def objectInitializerName : Symbol := "<init>"

def cloneName : Symbol := "clone"

def invokeName : Symbol := "invoke"

end VmSymbols

/-- `THROW(name)` / `THROW_MSG(name, ...)`: the message texts are diagnostics and left out. -/
def Failure.throw (klass : Symbol) : Failure := .thrown ⟨klass, []⟩

end HotspotLinking
