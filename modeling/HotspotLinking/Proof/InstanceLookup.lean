import HotspotLinking.Arena
import HotspotLinking.Call

/-!
# The first instance method

`lookup_instance_method_in_klasses` is meant to return the nearest non-static method with the
given name and signature on a klass's superclass chain. It does, with one exception: when
the walk reaches a static method of `Object` (the root, whose superclass is `NULL`) without
meeting an instance method, it looks up the method in the `NULL` superclass. Both
`resolve_interface_method` and `runtime_resolve_interface_method` reach it, for instance
through `Object.registerNatives()V`.
-/

namespace HotspotLinking

namespace Hierarchy

variable (h : Hierarchy)

/-- The nearest non-static method with this name and signature on `k`'s superclass chain. -/
def nearestInstanceMethod (k : KlassId) (name signature : Symbol) : Option Method :=
  (h.superChain k).findSome? fun c =>
    (h.findMethod c name signature).filter fun m => !m.flags.isStatic

variable {h}

theorem nearestInstanceMethod_eq (k : KlassId) (name signature : Symbol) :
    h.nearestInstanceMethod k name signature =
      ((h.findMethod k name signature).filter fun m => !m.flags.isStatic).or
        (match (h.klass k).super with
          | none => none
          | some s => h.nearestInstanceMethod s name signature) := by
  unfold nearestInstanceMethod
  rw [superChain_eq, List.findSome?_cons]
  cases (h.findMethod k name signature).filter fun m => !m.flags.isStatic <;>
    cases (h.klass k).super <;> rfl

theorem nearestInstanceMethod_eq_some {k : KlassId} {name signature : Symbol} {m : Method}
    (hm : h.nearestInstanceMethod k name signature = some m) :
    m.flags.isStatic = false ∧ h.findMethod m.holder name signature = some m ∧
      ∃ above, h.superChain k = above ++ h.superChain m.holder ∧
        ∀ c ∈ above, ∀ m', h.findMethod c name signature = some m' → m'.flags.isStatic = true := by
  induction k using superChain_induction with
  | root k hs =>
    rw [nearestInstanceMethod_eq, hs, Option.or_none, Option.filter_eq_some] at hm
    obtain ⟨hfound, hstatic⟩ := hm
    obtain ⟨-, rfl, -⟩ := findMethod_eq_some hfound
    exact ⟨by simpa using hstatic, hfound, [], rfl, by simp⟩
  | step k s hs ih =>
    rw [nearestInstanceMethod_eq, hs] at hm
    cases hk : (h.findMethod k name signature).filter fun m => !m.flags.isStatic with
    | some m' =>
      rw [hk, Option.or_some] at hm
      cases hm
      obtain ⟨hfound, hstatic⟩ := Option.filter_eq_some.mp hk
      obtain ⟨-, rfl, -⟩ := findMethod_eq_some hfound
      exact ⟨by simpa using hstatic, hfound, [], rfl, by simp⟩
    | none =>
      rw [hk, Option.none_or] at hm
      obtain ⟨hstatic, hfound, above, habove, hnear⟩ := ih hm
      refine ⟨hstatic, hfound, k :: above, by rw [superChain_of_super hs, habove]; rfl, ?_⟩
      intro c hc m' hm'
      rcases List.mem_cons.mp hc with rfl | hc
      · simpa [hm', Option.filter] using hk
      · exact hnear c hc m' hm'

end Hierarchy

namespace LinkResolver

variable {σ : Type} {h : Hierarchy}

/-- **The instance lookup, read off the chain.** The nearest instance method if any; else a
lookup on a `NULL` klass exactly when `Object` declares a static method of that descriptor. -/
theorem lookupInstanceMethodInKlasses_eq_nearest (k : KlassId) (name signature : Symbol) :
    lookupInstanceMethodInKlasses h k name signature =
      match h.nearestInstanceMethod k name signature with
      | some m => .ok (some m)
      | none =>
        if (h.findMethod h.objectKlass name signature).isSome then .error .nullKlass
        else .ok none := by
  induction k using Hierarchy.superChain_induction with
  | root k hs =>
    have hk : k = h.objectKlass := (h.super_eq_none_iff k).mp hs
    rw [lookupInstanceMethodInKlasses_eq, Hierarchy.uncachedLookupMethod_eq,
      Hierarchy.nearestInstanceMethod_eq, hs, Option.or_none, Option.or_none, ← hk]
    cases hm : h.findMethod k name signature with
    | none => rfl
    | some m =>
      obtain ⟨-, rfl, -⟩ := Hierarchy.findMethod_eq_some hm
      cases hstatic : m.flags.isStatic <;> simp [Option.filter, hstatic, hs]
  | step k s hs ih =>
    rw [lookupInstanceMethodInKlasses_eq, Hierarchy.uncachedLookupMethod_eq,
      Hierarchy.nearestInstanceMethod_eq, hs]
    cases hm : h.findMethod k name signature with
    | none =>
      rw [Option.none_or, Option.filter_none, Option.none_or, ← ih,
        lookupInstanceMethodInKlasses_eq]
    | some m =>
      obtain ⟨-, rfl, -⟩ := Hierarchy.findMethod_eq_some hm
      cases hstatic : m.flags.isStatic
      · simp [Option.filter, hstatic]
      · simp [Option.filter, hstatic, hs, ih]

theorem lookupInstanceMethodInKlasses_eq_ok_some {k : KlassId} {name signature : Symbol}
    {m : Method} (hm : lookupInstanceMethodInKlasses h k name signature = .ok (some m)) :
    h.nearestInstanceMethod k name signature = some m := by
  rw [lookupInstanceMethodInKlasses_eq_nearest] at hm
  split at hm
  · cases hm; assumption
  · split at hm <;> cases hm

/-! ## `Object.registerNatives()V`

Every JDK 7 `java.lang.Object` declares `private static native void registerNatives()`.
A small hierarchy with it: `Object` (0), `MethodHandle` (1), an interface `J` (2), an
interface `I` (3) declaring `public abstract void registerNatives()`, and a class `R` (4)
implementing `I`. -/

def objectRegisterNatives : Method :=
  { holder := 0, name := "registerNatives", signature := "()V",
    flags := { isPrivate := true, isStatic := true } }

def interfaceRegisterNatives : Method :=
  { holder := 3, name := "registerNatives", signature := "()V",
    flags := { isPublic := true, isAbstract := true } }

/-- `Object` declaring `private static registerNatives()`, `MethodHandle`, an interface `J`,
an interface `I` declaring `registerNatives()` abstract, and `R implements I`. -/
def registerNativesKlasses : List Klass :=
  [{ super := none, methods := [objectRegisterNatives] },
   { super := some 0, isAbstract := true },
   { super := some 0, isInterface := true, isAbstract := true },
   { super := some 0, isInterface := true, isAbstract := true,
     methods := [interfaceRegisterNatives] },
   { super := some 0, localInterfaces := [3], transitiveInterfaces := [3] }]

def registerNativesHierarchy : Hierarchy :=
  Hierarchy.ofArena registerNativesKlasses 0 1 (by decide)

/-- `J.registerNatives()V` reaches the static `Object.registerNatives` and looks up methods of
`Object`'s `NULL` superclass, at link time and at the receiver lookup alike. -/
theorem interfaceResolution_looks_up_null_super (rt : Runtime registerNativesHierarchy σ)
    (recv : Oop) (checkNullAndAbstract : Bool) :
    resolveInterfaceMethod rt 2 "registerNatives" "()V" 4 true = .error .nullKlass ∧
      resolveInterfaceMethod rt 3 "registerNatives" "()V" 4 false =
        .ok interfaceRegisterNatives ∧
      runtimeResolveInterfaceMethod registerNativesHierarchy interfaceRegisterNatives 3
        (some recv) 4 checkNullAndAbstract = .error .nullKlass := by
  refine ⟨rfl, rfl, ?_⟩
  cases checkNullAndAbstract <;> rfl

end LinkResolver

end HotspotLinking
