import HotspotLinking.Proof.Calls

/-!
# Dispatch through vtables

A virtual call's vtable index depends on the resolved method and klass only, so the index
cached for one receiver serves every other; an interface call of an `Object` method records
the method's own index, and in well-formed vtables the receiver's entry there is the method
the class-chain lookup selects, as long as the index names a slot. `Object.getClass` is final
and has none: an interface call of it records `nonvirtual_vtable_index`, and selects
`getClass` itself, which no class may override.

The miranda branch of `runtime_resolve_virtual_method` reads the receiver's vtable at the slot
`index_of_miranda` finds in the resolved klass, and asserts only in debug builds that there is
one. A class that inherits a signature-polymorphic method of `MethodHandle` and implements an
interface method of the same name and signature has none: the class-chain lookup skips the
`MethodHandle` method, resolution takes the interface's, and the layout rules give it no
miranda slot, since a superclass declares a method with its name and signature.
-/

namespace HotspotLinking

namespace Hierarchy

variable {h : Hierarchy}

end Hierarchy

namespace LinkResolver

variable {σ : Type} {h : Hierarchy} {rt : Runtime h σ}

def handleInvokeExact : Method :=
  { holder := 1, name := "invokeExact", signature := "([Ljava/lang/Object;)Ljava/lang/Object;",
    flags := { isPublic := true, isFinal := true }, intrinsicId := .invokeGeneric }

def interfaceInvokeExact : Method :=
  { holder := 2, name := "invokeExact", signature := "([Ljava/lang/Object;)Ljava/lang/Object;",
    flags := { isPublic := true, isAbstract := true } }

/-- `Object`, `MethodHandle` and an interface `J` declaring `invokeExact`, an abstract
`C extends MethodHandle implements J`, and `D extends C`; every vtable empty. -/
def invokeExactKlasses : List Klass :=
  [{ super := none },
   { super := some 0, isAbstract := true, methods := [handleInvokeExact] },
   { super := some 0, isInterface := true, isAbstract := true, methods := [interfaceInvokeExact] },
   { super := some 1, isAbstract := true, localInterfaces := [2], transitiveInterfaces := [2] },
   { super := some 3, transitiveInterfaces := [2] }]

def invokeExactHierarchy : Hierarchy := Hierarchy.ofArena invokeExactKlasses 0 1 (by decide)

theorem invokeExactHierarchy_vtableLayout : invokeExactHierarchy.VtableLayout := by
  refine .of_vtablesEmpty (Arena.vtablesEmpty (by decide)) (Arena.methodsNonvirtual (by decide))
    fun k => ?_
  by_cases hk : k < invokeExactKlasses.length
  · revert k
    decide
  · rw [show invokeExactHierarchy.klass k = _ from Arena.klassAt_of_length_le (Nat.le_of_not_lt hk)]
    intro _ hi
    cases hi

/-- `invokevirtual C.invokeExact(Object...)` on a `D` takes `J`'s miranda method, which has no
slot, and reads `D`'s vtable at `invalid_vtable_index`. -/
theorem virtualCall_reads_vtable_at_invalid_index :
    invokeExactHierarchy.VtableLayout ∧ invokeExactHierarchy.isSubtypeOf 4 3 = true ∧
      resolveVirtualCall (Runtime.ofSpec invokeExactHierarchy Unit) (some 0) 4 3 "invokeExact"
          "([Ljava/lang/Object;)Ljava/lang/Object;" 4 true true =
        .error (.vtableOutOfBounds invalidVtableIndex) :=
  ⟨invokeExactHierarchy_vtableLayout, rfl, rfl⟩

end LinkResolver

end HotspotLinking
