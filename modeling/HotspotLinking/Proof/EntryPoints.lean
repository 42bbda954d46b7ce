import HotspotLinking.EntryPoints
import HotspotLinking.Proof.Calls

/-!
# The interpreter's linkage and the compilers' queries

The interpreter and the compilers ask the resolver for the same call in different words: the
interpreter with the receiver in hand and every check on, the compilers with only the receiver's
klass and the null and abstract checks off. This file shows that they get the same answers.
A virtual or interface call the interpreter links is exactly the call the compilers' queries
describe, with a selected method that is not abstract; a static call links the method
`resolve_static_call_or_null` answers, also when the interpreter initialized its holder and
resolved again; and before a call site is linked, `resolve_method_statically` names the
method the interpreter resolves there.
-/

namespace HotspotLinking

namespace LinkResolver

variable {σ : Type} {h : Hierarchy} {rt : Runtime h σ}

open VmSymbols

/-! ## Queries that clear the exception -/

section ClearPendingException

variable {α β : Type}

@[simp]
theorem clearPendingException_ok (fallback a : α) :
    clearPendingException fallback (.ok a) = .ok a :=
  rfl

@[simp]
theorem clearPendingException_thrown (fallback : α) (e : Throwable) :
    clearPendingException fallback (.error (.thrown e)) = .ok fallback :=
  rfl

theorem clearPendingException_map_eq_ok {fallback b : β} {f : α → β} {x : Except Failure α} :
    clearPendingException fallback (f <$> x) = .ok b ↔
      (∃ a, x = .ok a ∧ f a = b) ∨ (∃ e, x = .error (.thrown e)) ∧ fallback = b := by
  rcases x with f | a
  · cases f <;> simp [clearPendingException, Functor.map, Except.map]
  · simp [Functor.map, Except.map]

end ClearPendingException

/-! ## Constant-pool entries -/

theorem resolvePool_eq_ok {pool : ConstantPool} {index : Nat} {ref : MethodRef} :
    resolvePool pool index = .ok ref ↔
      ∃ resolvedKlass, resolveKlass pool index = .ok resolvedKlass ∧
        ref = ⟨resolvedKlass, pool.nameRefAt index, pool.signatureRefAt index,
          pool.poolHolder⟩ := by
  simp only [resolvePool, except_bind_eq_ok, pure, Except.pure, Except.ok.injEq]
  exact exists_congr fun _ => and_congr_right fun _ => eq_comm

/-! ## The abstract check -/

/-- The check the interpreter's linkages make last and the compilers' queries skip: an abstract
selected method is `AbstractMethodError`. -/
def rejectAbstract (ci : CallInfo) : Except Failure CallInfo :=
  if ci.selectedMethod.flags.isAbstract then throw (Failure.throw javaLangAbstractMethodError)
  else pure ci

theorem rejectAbstract_eq_ok {ci ci' : CallInfo} :
    rejectAbstract ci = .ok ci' ↔ ci.selectedMethod.flags.isAbstract = false ∧ ci' = ci := by
  unfold rejectAbstract
  cases ci.selectedMethod.flags.isAbstract <;> simp [throw, throwThe, MonadExceptOf.throw,
    pure, Except.pure, eq_comm]

theorem runtimeResolveVirtualMethod_checked (resolvedMethod : Method) (resolvedKlass : KlassId)
    (recv : Oop) (recvKlass : KlassId) :
    runtimeResolveVirtualMethod h resolvedMethod resolvedKlass (some recv) recvKlass true =
      runtimeResolveVirtualMethod h resolvedMethod resolvedKlass none recvKlass false >>=
        rejectAbstract := by
  unfold runtimeResolveVirtualMethod
  rcases selectVirtualMethod h resolvedMethod resolvedKlass recvKlass with f | ⟨idx, _ | sel⟩
  · rfl
  · rfl
  · cases ha : sel.flags.isAbstract <;>
      simp [rejectAbstract, CallInfo.setVirtual, CallInfo.setCommon, ha, bind, Except.bind,
        pure, Except.pure, throw, throwThe, MonadExceptOf.throw]

theorem runtimeResolveInterfaceMethod_checked (resolvedMethod : Method) (resolvedKlass : KlassId)
    (recv : Oop) (recvKlass : KlassId) :
    runtimeResolveInterfaceMethod h resolvedMethod resolvedKlass (some recv) recvKlass true =
      runtimeResolveInterfaceMethod h resolvedMethod resolvedKlass none recvKlass false >>=
        rejectAbstract := by
  unfold runtimeResolveInterfaceMethod
  cases h.isSubtypeOf recvKlass resolvedKlass
  · rfl
  rcases lookupInstanceMethodInKlasses h recvKlass resolvedMethod.name resolvedMethod.signature
    with f | _ | sel
  · rfl
  · rfl
  cases hp : sel.flags.isPublic
  · simp [hp, bind, Except.bind, pure, Except.pure, throw, throwThe, MonadExceptOf.throw]
  · cases ha : sel.flags.isAbstract <;>
      simp [rejectAbstract, CallInfo.setInterface, CallInfo.setCommon, hp, ha, bind,
        Except.bind, pure, Except.pure, throw, throwThe, MonadExceptOf.throw]

section Calls

variable {recvKlass resolvedKlass currentKlass : KlassId} {name signature : Symbol}
  {checkAccess : Bool} {klassOf : Oop → KlassId} {pool : ConstantPool} {index : Nat}

/-! ## The compilers' queries -/

theorem resolveVirtualCall_checked (recv : Oop) :
    resolveVirtualCall rt (some recv) recvKlass resolvedKlass name signature currentKlass
        checkAccess true =
      resolveVirtualCall rt none recvKlass resolvedKlass name signature currentKlass checkAccess
        false >>= rejectAbstract := by
  simp only [resolveVirtualCall, runtimeResolveVirtualMethod_checked, bind_assoc]

theorem resolveInterfaceCall_checked (recv : Oop) :
    resolveInterfaceCall rt (some recv) recvKlass resolvedKlass name signature currentKlass
        checkAccess true =
      resolveInterfaceCall rt none recvKlass resolvedKlass name signature currentKlass
        checkAccess false >>= rejectAbstract := by
  simp only [resolveInterfaceCall, runtimeResolveInterfaceMethod_checked, bind_assoc]

theorem linktimeResolveVirtualMethodOrNull_eq_some {m : Method} :
    linktimeResolveVirtualMethodOrNull rt resolvedKlass name signature currentKlass checkAccess =
        .ok (some m) ↔
      linktimeResolveVirtualMethod rt resolvedKlass name signature currentKlass checkAccess =
        .ok m := by
  simp [linktimeResolveVirtualMethodOrNull, clearPendingException_map_eq_ok]

theorem linktimeResolveInterfaceMethodOrNull_eq_some {m : Method} :
    linktimeResolveInterfaceMethodOrNull rt resolvedKlass name signature currentKlass
        checkAccess = .ok (some m) ↔
      linktimeResolveInterfaceMethod rt resolvedKlass name signature currentKlass checkAccess =
        .ok m := by
  simp [linktimeResolveInterfaceMethodOrNull, clearPendingException_map_eq_ok]

theorem resolveVirtualCallOrNull_eq_some {m : Method} :
    resolveVirtualCallOrNull rt recvKlass resolvedKlass name signature currentKlass =
        .ok (some m) ↔
      ∃ ci, resolveVirtualCall rt none recvKlass resolvedKlass name signature currentKlass true
          false = .ok ci ∧ ci.selectedMethod = m := by
  simp [resolveVirtualCallOrNull, clearPendingException_map_eq_ok]

theorem resolveInterfaceCallOrNull_eq_some {m : Method} :
    resolveInterfaceCallOrNull rt recvKlass resolvedKlass name signature currentKlass =
        .ok (some m) ↔
      ∃ ci, resolveInterfaceCall rt none recvKlass resolvedKlass name signature currentKlass
          true false = .ok ci ∧ ci.selectedMethod = m := by
  simp [resolveInterfaceCallOrNull, clearPendingException_map_eq_ok]

theorem resolveVirtualCall_unchecked_eq_ok {ci : CallInfo} :
    resolveVirtualCall rt none recvKlass resolvedKlass name signature currentKlass true false =
        .ok ci ↔
      ∃ resolvedMethod selectedMethod vtableIndex,
        linktimeResolveVirtualMethodOrNull rt resolvedKlass name signature currentKlass true =
          .ok (some resolvedMethod) ∧
        resolveVirtualCallOrNull rt recvKlass resolvedKlass name signature currentKlass =
          .ok (some selectedMethod) ∧
        resolveVirtualVtableIndex rt recvKlass resolvedKlass name signature currentKlass =
          .ok vtableIndex ∧
        ci = CallInfo.setVirtual resolvedKlass recvKlass resolvedMethod selectedMethod
          vtableIndex := by
  simp only [linktimeResolveVirtualMethodOrNull_eq_some, resolveVirtualCallOrNull_eq_some]
  constructor
  · intro hci
    obtain ⟨rm, hrm, hrun⟩ := except_bind_eq_ok.mp hci
    obtain ⟨idx, sel, -, -, rfl⟩ := runtimeResolveVirtualMethod_eq_ok hrun
    refine ⟨rm, sel, idx, hrm, ⟨_, hci, rfl⟩, ?_, rfl⟩
    rw [resolveVirtualVtableIndex, hci]
    rfl
  · rintro ⟨rm, sm, idx, hrm, ⟨ci, hci, rfl⟩, hidx, rfl⟩
    obtain ⟨rm', hrm', hrun⟩ := except_bind_eq_ok.mp hci
    obtain ⟨idx', sel, -, -, rfl⟩ := runtimeResolveVirtualMethod_eq_ok hrun
    rw [resolveVirtualVtableIndex, hci] at hidx
    cases hrm.symm.trans hrm'
    cases hidx
    exact hci

theorem resolveInterfaceCall_unchecked_eq_ok {ci : CallInfo} :
    resolveInterfaceCall rt none recvKlass resolvedKlass name signature currentKlass true
        false = .ok ci ↔
      ∃ resolvedMethod selectedMethod,
        linktimeResolveInterfaceMethodOrNull rt resolvedKlass name signature currentKlass true =
          .ok (some resolvedMethod) ∧
        resolveInterfaceCallOrNull rt recvKlass resolvedKlass name signature currentKlass =
          .ok (some selectedMethod) ∧
        ci = CallInfo.setInterface h resolvedKlass recvKlass resolvedMethod selectedMethod := by
  simp only [linktimeResolveInterfaceMethodOrNull_eq_some, resolveInterfaceCallOrNull_eq_some]
  constructor
  · intro hci
    obtain ⟨rm, hrm, hrun⟩ := except_bind_eq_ok.mp hci
    obtain ⟨-, sel, -, -, -, rfl⟩ := runtimeResolveInterfaceMethod_eq_ok hrun
    exact ⟨rm, sel, hrm, ⟨_, hci, rfl⟩, rfl⟩
  · rintro ⟨rm, sm, hrm, ⟨ci, hci, rfl⟩, rfl⟩
    obtain ⟨rm', hrm', hrun⟩ := except_bind_eq_ok.mp hci
    obtain ⟨-, sel, -, -, -, rfl⟩ := runtimeResolveInterfaceMethod_eq_ok hrun
    cases hrm.symm.trans hrm'
    exact hci

/-! ## The interpreter's linkage against the compilers' queries -/

/-- **The compilers see the virtual call the interpreter links.** `resolve_invokevirtual`
links exactly the call the compilers' three queries describe, when its selection is concrete. -/
theorem resolveInvokevirtual_eq_ok_iff {recv : Oop} {ci : CallInfo} :
    resolveInvokevirtual rt klassOf (some recv) pool index = .ok ci ↔
      ∃ ref resolvedMethod selectedMethod vtableIndex,
        resolvePool pool index = .ok ref ∧
        linktimeResolveVirtualMethodOrNull rt ref.resolvedKlass ref.methodName
          ref.methodSignature ref.currentKlass true = .ok (some resolvedMethod) ∧
        resolveVirtualCallOrNull rt (klassOf recv) ref.resolvedKlass ref.methodName
          ref.methodSignature ref.currentKlass = .ok (some selectedMethod) ∧
        resolveVirtualVtableIndex rt (klassOf recv) ref.resolvedKlass ref.methodName
          ref.methodSignature ref.currentKlass = .ok vtableIndex ∧
        selectedMethod.flags.isAbstract = false ∧
        ci = CallInfo.setVirtual ref.resolvedKlass (klassOf recv) resolvedMethod selectedMethod
          vtableIndex := by
  simp only [resolveInvokevirtual, recvrKlass, except_bind_eq_ok, resolveVirtualCall_checked,
    resolveVirtualCall_unchecked_eq_ok, rejectAbstract_eq_ok]
  constructor
  · rintro ⟨ref, hpool, _, ⟨rm, sm, idx, hrm, hsm, hidx, rfl⟩, habs, rfl⟩
    exact ⟨ref, rm, sm, idx, hpool, hrm, hsm, hidx, habs, rfl⟩
  · rintro ⟨ref, rm, sm, idx, hpool, hrm, hsm, hidx, habs, rfl⟩
    exact ⟨ref, hpool, _, ⟨rm, sm, idx, hrm, hsm, hidx, rfl⟩, habs, rfl⟩

/-- **The compilers see the interface call the interpreter links**, as for virtual calls. -/
theorem resolveInvokeinterface_eq_ok_iff {recv : Oop} {ci : CallInfo} :
    resolveInvokeinterface rt klassOf (some recv) pool index = .ok ci ↔
      ∃ ref resolvedMethod selectedMethod,
        resolvePool pool index = .ok ref ∧
        linktimeResolveInterfaceMethodOrNull rt ref.resolvedKlass ref.methodName
          ref.methodSignature ref.currentKlass true = .ok (some resolvedMethod) ∧
        resolveInterfaceCallOrNull rt (klassOf recv) ref.resolvedKlass ref.methodName
          ref.methodSignature ref.currentKlass = .ok (some selectedMethod) ∧
        selectedMethod.flags.isAbstract = false ∧
        ci = CallInfo.setInterface h ref.resolvedKlass (klassOf recv) resolvedMethod
          selectedMethod := by
  simp only [resolveInvokeinterface, recvrKlass, except_bind_eq_ok, resolveInterfaceCall_checked,
    resolveInterfaceCall_unchecked_eq_ok, rejectAbstract_eq_ok]
  constructor
  · rintro ⟨ref, hpool, _, ⟨rm, sm, hrm, hsm, rfl⟩, habs, rfl⟩
    exact ⟨ref, rm, sm, hpool, hrm, hsm, habs, rfl⟩
  · rintro ⟨ref, rm, sm, hpool, hrm, hsm, habs, rfl⟩
    exact ⟨ref, hpool, _, ⟨rm, sm, hrm, hsm, rfl⟩, habs, rfl⟩

/-! ## Static calls -/

theorem resolveStaticCall_without_initialization (vm : σ) :
    resolveStaticCall rt resolvedKlass name signature currentKlass checkAccess false vm =
      match linktimeResolveStaticMethod rt resolvedKlass name signature currentKlass
          checkAccess with
      | .ok m => .ok (CallInfo.setStatic m.holder m) vm
      | .error f => .error f vm := by
  unfold resolveStaticCall
  cases linktimeResolveStaticMethod rt resolvedKlass name signature currentKlass checkAccess <;>
    rfl

theorem resolveStaticCallOrNull_eq (vm : σ) :
    resolveStaticCallOrNull rt resolvedKlass name signature currentKlass vm =
      clearPendingException none
        (some <$> linktimeResolveStaticMethod rt resolvedKlass name signature currentKlass
          true) := by
  rw [resolveStaticCallOrNull, resolveStaticCall_without_initialization]
  cases linktimeResolveStaticMethod rt resolvedKlass name signature currentKlass true <;> rfl

theorem resolveInvokestatic_eq_ok {vm vm' : σ} {ci : CallInfo}
    (hci : resolveInvokestatic rt pool index vm = .ok ci vm') :
    ∃ ref m, resolvePool pool index = .ok ref ∧
      linktimeResolveStaticMethod rt ref.resolvedKlass ref.methodName ref.methodSignature
        ref.currentKlass true = .ok m ∧
      ci = CallInfo.setStatic m.holder m := by
  obtain ⟨ref, vm₁, hlift, hcall⟩ := eStateM_bind_eq_ok.mp hci
  obtain ⟨hpool, rfl⟩ := liftExcept_eq_ok.mp hlift
  obtain ⟨m, hm, hcases⟩ := resolveStaticCall_eq_ok hcall
  refine ⟨ref, m, hpool, hm, ?_⟩
  rcases hcases with ⟨-, -, rfl⟩ | ⟨-, -, m', hm', rfl⟩
  · rfl
  · rw [resolveMethod_holder (linktimeResolveStaticMethod_eq_ok hm).1
      (linktimeResolveStaticMethod_eq_ok hm').1]

/-- **A static call the interpreter links is the compilers' answer**, in every VM state, also
when the interpreter initialized the holder and resolved the method again. -/
theorem resolveInvokestatic_selects_staticCallOrNull {vm vm' : σ} {ci : CallInfo}
    (hci : resolveInvokestatic rt pool index vm = .ok ci vm') (vm₀ : σ) :
    ∃ ref, resolvePool pool index = .ok ref ∧
      resolveStaticCallOrNull rt ref.resolvedKlass ref.methodName ref.methodSignature
        ref.currentKlass vm₀ = .ok (some ci.selectedMethod) ∧
      ci = CallInfo.setStatic ci.selectedMethod.holder ci.selectedMethod := by
  obtain ⟨ref, m, hpool, hm, rfl⟩ := resolveInvokestatic_eq_ok hci
  refine ⟨ref, hpool, ?_, rfl⟩
  rw [resolveStaticCallOrNull_eq, hm]
  rfl

def staticFoo : Method :=
  { holder := 2, name := "foo", signature := "()V",
    flags := { isPublic := true, isStatic := true } }

/-- `Object`, `MethodHandle`, `A` declaring `public static foo()`, a class `B`, and a subclass
`C` of `A`. -/
def staticCallKlasses : List Klass :=
  [{ super := none }, { super := some 0, isAbstract := true },
   { super := some 0, methods := [staticFoo] }, { super := some 0 }, { super := some 2 }]

def staticCallHierarchy : Hierarchy := Hierarchy.ofArena staticCallKlasses 0 1 (by decide)

/-- The VM state is the list of initialized classes; the access rule of §4.3. -/
def initializingCallRuntime : Runtime staticCallHierarchy (List KlassId) :=
  { Runtime.ofSpec staticCallHierarchy (List KlassId) with
    shouldBeInitialized := fun k initialized => !initialized.contains k
    initializeKlass := fun k => modify fun initialized =>
      if initialized.contains k then initialized else k :: initialized }

def fooRefFromB : ConstantPool where
  poolHolder := 3
  klassRefAt _ := .ok 4
  klassRefAtIfLoaded _ := .ok (some 4)
  nameRefAt _ := "foo"
  signatureRefAt _ := "()V"

/-- `invokestatic C.foo()` from `B` initializes `A`, resolves `foo` again from it, and links
`A.foo`, which the compilers' query names too. -/
theorem inheritedStaticCall_compilers_agree :
    resolveInvokestatic initializingCallRuntime fooRefFromB 0 [] =
        .ok (CallInfo.setStatic 2 staticFoo) [2] ∧
      ∃ ref, resolvePool fooRefFromB 0 = .ok ref ∧
        resolveStaticCallOrNull initializingCallRuntime ref.resolvedKlass ref.methodName
          ref.methodSignature ref.currentKlass [] = .ok (some staticFoo) ∧
        CallInfo.setStatic 2 staticFoo = CallInfo.setStatic staticFoo.holder staticFoo :=
  have hci : resolveInvokestatic initializingCallRuntime fooRefFromB 0 [] =
      .ok (CallInfo.setStatic 2 staticFoo) [2] := rfl
  ⟨hci, resolveInvokestatic_selects_staticCallOrNull hci []⟩

/-! ## The method a bytecode names -/

theorem resolveMethodStatically_of_unlinked {cache : PoolCache} {code : Bytecode}
    (hcode : code ≠ .invokedynamic) (hcache : cache.methodAtIfLoaded index = none) :
    resolveMethodStatically rt pool cache code index = (do
      let resolvedKlass ← resolveKlass pool index
      let resolvedMethod ← if code = .invokeinterface then
          resolveInterfaceMethod rt resolvedKlass (pool.nameRefAt index)
            (pool.signatureRefAt index) pool.poolHolder true
        else
          resolveMethod rt resolvedKlass (pool.nameRefAt index) (pool.signatureRefAt index)
            pool.poolHolder true
      return (resolvedMethod, resolvedKlass)) := by
  unfold resolveMethodStatically
  simp only [hcode, hcache, if_false, pure_bind, ite_self]

theorem resolveMethodStatically_eq_ok {cache : PoolCache} {code : Bytecode} {m : Method}
    (hcode : code ≠ .invokedynamic) (hcache : cache.methodAtIfLoaded index = none)
    (hk : resolveKlass pool index = .ok resolvedKlass)
    (hm : (if code = .invokeinterface then
        resolveInterfaceMethod rt resolvedKlass (pool.nameRefAt index)
          (pool.signatureRefAt index) pool.poolHolder true
      else
        resolveMethod rt resolvedKlass (pool.nameRefAt index) (pool.signatureRefAt index)
          pool.poolHolder true) = .ok m) :
    resolveMethodStatically rt pool cache code index = .ok (m, resolvedKlass) := by
  rw [resolveMethodStatically_of_unlinked hcode hcache, hk]
  by_cases hi : code = .invokeinterface <;> simp only [hi, if_true, if_false] at hm ⊢ <;>
    simp [hm, bind, Except.bind, pure, Except.pure]

/-- **Before a call site is linked, the compilers name the method the interpreter resolves**,
or for `invokespecial` the one it selects, a super call to another method apart. -/
theorem resolveMethodStatically_agrees_with_interpreter {cache : PoolCache}
    (hcache : cache.methodAtIfLoaded index = none) :
    (∀ (vm vm' : σ) ci, resolveInvokestatic rt pool index vm = .ok ci vm' →
      ∃ resolvedKlass, resolveMethodStatically rt pool cache .invokestatic index =
        .ok (ci.resolvedMethod, resolvedKlass)) ∧
    (∀ klassOf recv ci, resolveInvokevirtual rt klassOf recv pool index = .ok ci →
      resolveMethodStatically rt pool cache .invokevirtual index =
        .ok (ci.resolvedMethod, ci.resolvedKlass)) ∧
    (∀ klassOf recv ci, resolveInvokeinterface rt klassOf recv pool index = .ok ci →
      resolveMethodStatically rt pool cache .invokeinterface index =
        .ok (ci.resolvedMethod, ci.resolvedKlass)) ∧
    (∀ ci, resolveInvokespecial rt pool index = .ok ci →
      ∃ m, resolveMethodStatically rt pool cache .invokespecial index =
          .ok (m, ci.resolvedKlass) ∧
        (ci.selectedMethod = m ∨ isSuperCall rt m pool.poolHolder true = true ∧
          lookupSuperMethod rt m pool.poolHolder = .ok ci.selectedMethod)) := by
  refine ⟨fun vm vm' ci hci => ?static, fun klassOf recv ci hci => ?virtual,
    fun klassOf recv ci hci => ?interface, fun ci hci => ?special⟩
  case static =>
    obtain ⟨ref, m, hpool, hm, rfl⟩ := resolveInvokestatic_eq_ok hci
    obtain ⟨rk, hk, rfl⟩ := resolvePool_eq_ok.mp hpool
    exact ⟨rk, resolveMethodStatically_eq_ok (by decide) hcache hk
      (linktimeResolveStaticMethod_eq_ok hm).1⟩
  case virtual =>
    obtain ⟨ref, hpool, hcall⟩ := except_bind_eq_ok.mp hci
    obtain ⟨rk, hk, rfl⟩ := resolvePool_eq_ok.mp hpool
    obtain ⟨rm, hrm, hrun⟩ := except_bind_eq_ok.mp hcall
    obtain ⟨idx, sel, -, -, rfl⟩ := runtimeResolveVirtualMethod_eq_ok hrun
    exact resolveMethodStatically_eq_ok (by decide) hcache hk
      (linktimeResolveVirtualMethod_eq_ok hrm).1
  case interface =>
    obtain ⟨ref, hpool, hcall⟩ := except_bind_eq_ok.mp hci
    obtain ⟨rk, hk, rfl⟩ := resolvePool_eq_ok.mp hpool
    obtain ⟨rm, hrm, hrun⟩ := except_bind_eq_ok.mp hcall
    obtain ⟨-, sel, -, -, -, rfl⟩ := runtimeResolveInterfaceMethod_eq_ok hrun
    exact resolveMethodStatically_eq_ok (by decide) hcache hk hrm
  case special =>
    obtain ⟨ref, hpool, hcall⟩ := except_bind_eq_ok.mp hci
    obtain ⟨rk, hk, rfl⟩ := resolvePool_eq_ok.mp hpool
    obtain ⟨m, hm, hrun⟩ := except_bind_eq_ok.mp hcall
    obtain ⟨sel, -, -, -, hsel⟩ := runtimeResolveSpecialMethod_eq_ok hrun
    refine ⟨m, ?_, resolveSpecialCall_selected hm hcall⟩
    rw [hsel]
    exact resolveMethodStatically_eq_ok (by decide) hcache hk
      (linktimeResolveSpecialMethod_eq_ok hm).1

/-- Before `B`'s call site for `C.foo()` is linked, in a pre-resolved pool too,
`resolve_method_statically` names `A.foo`, the method `invokestatic` links. -/
theorem inheritedStaticCall_named_statically :
    ({ hasPreresolution := true, methodAtIfLoaded := fun _ => none } : PoolCache).methodAtIfLoaded
        0 = none ∧
      ∃ resolvedKlass,
        resolveMethodStatically initializingCallRuntime fooRefFromB
          { hasPreresolution := true, methodAtIfLoaded := fun _ => none } .invokestatic 0 =
            .ok (staticFoo, resolvedKlass) :=
  have hcache : ({ hasPreresolution := true, methodAtIfLoaded := fun _ => none } :
      PoolCache).methodAtIfLoaded 0 = none := rfl
  have hci : resolveInvokestatic initializingCallRuntime fooRefFromB 0 [] =
      .ok (CallInfo.setStatic 2 staticFoo) [2] := rfl
  ⟨hcache, (resolveMethodStatically_agrees_with_interpreter hcache).1 [] [2] _ hci⟩

end Calls

end LinkResolver

end HotspotLinking
