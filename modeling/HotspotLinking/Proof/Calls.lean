import HotspotLinking.Proof.Resolution
import HotspotLinking.Layout

/-!
# What a call linkage has checked

One inversion lemma for each part of the five call linkages: the link-time resolution, the
run-time selection, and the `CallInfo` they build. The results about calls are assembled from
them: which loader constraints a linkage consulted, that every linkage is of the kind asked
for, that resolved and selected methods share a name and a signature, and which method an
old-style super call selects.
-/

namespace HotspotLinking

/-- The invariant of §3: the resolved and the selected method of a `CallInfo` have the same
name and the same signature. -/
def CallInfo.SameDescriptor (ci : CallInfo) : Prop :=
  ci.resolvedMethod.name = ci.selectedMethod.name ∧
    ci.resolvedMethod.signature = ci.selectedMethod.signature

namespace LinkResolver

variable {σ : Type} {h : Hierarchy} {rt : Runtime h σ}

open VmSymbols

/-! ## Link-time resolution -/

theorem linktimeResolveStaticMethod_eq_ok {resolvedKlass currentKlass : KlassId}
    {methodName methodSignature : Symbol} {checkAccess : Bool} {m : Method}
    (hm : linktimeResolveStaticMethod rt resolvedKlass methodName methodSignature currentKlass
      checkAccess = .ok m) :
    resolveMethod rt resolvedKlass methodName methodSignature currentKlass checkAccess = .ok m ∧
      m.flags.isStatic = true := by
  obtain ⟨m', hm', hm⟩ := except_bind_eq_ok.mp hm
  split at hm
  · cases hm
  · rename_i hstatic
    cases hm
    exact ⟨hm', by simpa using hstatic⟩

theorem linktimeResolveSpecialMethod_eq_ok {resolvedKlass currentKlass : KlassId}
    {methodName methodSignature : Symbol} {checkAccess : Bool} {m : Method}
    (hm : linktimeResolveSpecialMethod rt resolvedKlass methodName methodSignature currentKlass
      checkAccess = .ok m) :
    resolveMethod rt resolvedKlass methodName methodSignature currentKlass checkAccess = .ok m ∧
      (m.name = objectInitializerName → m.holder = resolvedKlass) ∧ m.flags.isStatic = false := by
  obtain ⟨m', hm', hm⟩ := except_bind_eq_ok.mp hm
  simp only [bind, Except.bind, pure, Except.pure, throw, throwThe, MonadExceptOf.throw] at hm
  split at hm; · cases hm
  rename_i hinit
  split at hm; · cases hm
  rename_i hstatic
  cases hm
  refine ⟨hm', fun hname => ?_, by simpa using hstatic⟩
  simpa [hname] using hinit

theorem linktimeResolveVirtualMethod_eq_ok {resolvedKlass currentKlass : KlassId}
    {methodName methodSignature : Symbol} {checkAccess : Bool} {m : Method}
    (hm : linktimeResolveVirtualMethod rt resolvedKlass methodName methodSignature currentKlass
      checkAccess = .ok m) :
    resolveMethod rt resolvedKlass methodName methodSignature currentKlass checkAccess = .ok m ∧
      m.flags.isStatic = false := by
  obtain ⟨m', hm', hm⟩ := except_bind_eq_ok.mp hm
  split at hm
  · cases hm
  · rename_i hstatic
    cases hm
    exact ⟨hm', by simpa using hstatic⟩

/-! ## invokespecial -/

theorem lookupSuperMethod_eq_ok {resolvedMethod selMethod : Method} {currentKlass : KlassId}
    (hm : lookupSuperMethod rt resolvedMethod currentKlass = .ok selMethod) :
    ∃ superKlass, (h.klass currentKlass).super = some superKlass ∧
      lookupInstanceMethodInKlasses h superKlass resolvedMethod.name resolvedMethod.signature =
        .ok (some selMethod) ∧
      (selMethod ≠ resolvedMethod →
        checkMethodLoaderConstraints rt selMethod selMethod.signature currentKlass = .ok ()) := by
  unfold lookupSuperMethod at hm
  simp only [bind, Except.bind, pure, Except.pure, throw, throwThe, MonadExceptOf.throw] at hm
  split at hm
  · rename_i superKlass hs
    refine ⟨superKlass, hs, ?_⟩
    split at hm; · cases hm
    rename_i hfound
    split at hm
    · split at hm
      · split at hm; · cases hm
        cases hm
        exact ⟨hfound, fun _ => ‹_›⟩
      · rename_i hne
        cases hm
        exact ⟨hfound, fun hne' => absurd (bne_iff_ne.mpr hne') hne⟩
    · cases hm
  · cases hm

theorem runtimeResolveSpecialMethod_eq_ok {resolvedMethod : Method}
    {resolvedKlass currentKlass : KlassId} {checkAccess : Bool} {ci : CallInfo}
    (hci : runtimeResolveSpecialMethod rt resolvedMethod resolvedKlass currentKlass checkAccess =
      .ok ci) :
    ∃ selMethod,
      (if isSuperCall rt resolvedMethod currentKlass checkAccess then
        lookupSuperMethod rt resolvedMethod currentKlass = .ok selMethod
      else selMethod = resolvedMethod) ∧
      selMethod.flags.isStatic = false ∧ selMethod.flags.isAbstract = false ∧
      ci = CallInfo.setStatic resolvedKlass selMethod := by
  unfold runtimeResolveSpecialMethod at hci
  obtain ⟨sel, hsel, hci⟩ := except_bind_eq_ok.mp hci
  simp only [bind, Except.bind, pure, Except.pure, throw, throwThe, MonadExceptOf.throw] at hci
  split at hci; · cases hci
  rename_i hstatic
  split at hci; · cases hci
  rename_i habs
  cases hci
  refine ⟨sel, ?_, by simpa using hstatic, by simpa using habs, rfl⟩
  split at hsel
  · rw [if_pos ‹_›]; exact hsel
  · rw [if_neg ‹_›]; exact (Except.ok.inj hsel).symm

/-! ## invokevirtual and invokeinterface -/

theorem selectVirtualMethod_eq_ok {resolvedMethod : Method} {resolvedKlass recvKlass : KlassId}
    {vtableIndex : Int} {selectedMethod : Option Method}
    (hsel : selectVirtualMethod h resolvedMethod resolvedKlass recvKlass =
      .ok (vtableIndex, selectedMethod)) :
    (h.klass resolvedMethod.holder).isInterface = true ∧
        vtableIndex = vtableIndexOfMirandaMethod h resolvedKlass resolvedMethod.name
          resolvedMethod.signature ∧
        h.vtableAt recvKlass vtableIndex = some selectedMethod ∨
      (h.klass resolvedMethod.holder).isInterface = false ∧
        resolvedMethod.vtableIndex = nonvirtualVtableIndex ∧
        vtableIndex = nonvirtualVtableIndex ∧ selectedMethod = some resolvedMethod ∨
      (h.klass resolvedMethod.holder).isInterface = false ∧
        resolvedMethod.vtableIndex ≠ nonvirtualVtableIndex ∧
        vtableIndex = resolvedMethod.vtableIndex ∧
        h.vtableAt recvKlass vtableIndex = some selectedMethod := by
  unfold selectVirtualMethod at hsel
  split at hsel
  · rename_i hi
    obtain ⟨sel, hread, hsel⟩ := except_bind_eq_ok.mp hsel
    cases hsel
    exact .inl ⟨hi, rfl, Hierarchy.methodAtVtable_eq_ok hread⟩
  · rename_i hi
    dsimp only at hsel
    split at hsel
    · cases hsel
      exact .inr (.inl ⟨by simpa using hi, ‹_›, ‹_›, rfl⟩)
    · rename_i hnv
      obtain ⟨sel, hread, hsel⟩ := except_bind_eq_ok.mp hsel
      cases hsel
      exact .inr (.inr ⟨by simpa using hi, hnv, rfl, Hierarchy.methodAtVtable_eq_ok hread⟩)

theorem runtimeResolveVirtualMethod_eq_ok {resolvedMethod : Method} {resolvedKlass : KlassId}
    {recv : Option Oop} {recvKlass : KlassId} {checkNullAndAbstract : Bool} {ci : CallInfo}
    (hci : runtimeResolveVirtualMethod h resolvedMethod resolvedKlass recv recvKlass
      checkNullAndAbstract = .ok ci) :
    ∃ vtableIndex selectedMethod,
      selectVirtualMethod h resolvedMethod resolvedKlass recvKlass =
        .ok (vtableIndex, some selectedMethod) ∧
      (checkNullAndAbstract = true → recv.isSome = true ∧
        selectedMethod.flags.isAbstract = false) ∧
      ci = CallInfo.setVirtual resolvedKlass recvKlass resolvedMethod selectedMethod
        vtableIndex := by
  unfold runtimeResolveVirtualMethod at hci
  simp only [bind, Except.bind, pure, Except.pure, throw, throwThe, MonadExceptOf.throw] at hci
  split at hci; · cases hci
  rename_i hnull
  split at hci; · cases hci
  rename_i p hsel
  split at hci
  · rename_i sel hp
    split at hci; · cases hci
    rename_i habs
    cases hci
    obtain ⟨idx, _⟩ := p
    cases hp
    refine ⟨idx, sel, hsel, fun hc => ⟨?_, by simpa [hc] using habs⟩, rfl⟩
    simpa [hc, Option.isSome_iff_ne_none] using hnull
  · cases hci

theorem runtimeResolveInterfaceMethod_eq_ok {resolvedMethod : Method} {resolvedKlass : KlassId}
    {recv : Option Oop} {recvKlass : KlassId} {checkNullAndAbstract : Bool} {ci : CallInfo}
    (hci : runtimeResolveInterfaceMethod h resolvedMethod resolvedKlass recv recvKlass
      checkNullAndAbstract = .ok ci) :
    h.isSubtypeOf recvKlass resolvedKlass = true ∧
      ∃ selMethod,
        lookupInstanceMethodInKlasses h recvKlass resolvedMethod.name resolvedMethod.signature =
          .ok (some selMethod) ∧
        selMethod.flags.isPublic = true ∧
        (checkNullAndAbstract = true → recv.isSome = true ∧
          selMethod.flags.isAbstract = false) ∧
        ci = CallInfo.setInterface h resolvedKlass recvKlass resolvedMethod selMethod := by
  unfold runtimeResolveInterfaceMethod at hci
  simp only [bind, Except.bind, pure, Except.pure, throw, throwThe, MonadExceptOf.throw] at hci
  split at hci; · cases hci
  rename_i hnull
  split at hci; · cases hci
  rename_i hsub
  split at hci; · cases hci
  rename_i found hfound
  split at hci
  · rename_i sel
    split at hci; · cases hci
    rename_i hpublic
    split at hci; · cases hci
    rename_i habs
    cases hci
    refine ⟨by simpa using hsub, sel, hfound, by simpa using hpublic,
      fun hc => ⟨?_, by simpa [hc] using habs⟩, rfl⟩
    simpa [hc, Option.isSome_iff_ne_none] using hnull
  · cases hci

/-! ## invokestatic and the JSR 292 linkages -/

theorem setHandle_eq_ok {resolvedMethod : Option Method} {resolvedAppendix resolvedMethodType : Option Oop}
    {ci : CallInfo}
    (hci : CallInfo.setHandle h resolvedMethod resolvedAppendix resolvedMethodType = .ok ci) :
    ∃ m, resolvedMethod = some m ∧ ci.resolvedMethod = m ∧ ci.selectedMethod = m ∧
      ci.resolvedKlass = h.methodHandleKlass ∧ ci.vtableIndex = nonvirtualVtableIndex := by
  unfold CallInfo.setHandle at hci
  split at hci
  · cases hci
  · cases hci
    exact ⟨_, rfl, rfl, rfl, rfl, rfl⟩

theorem resolveStaticCall_eq_ok {resolvedKlass currentKlass : KlassId}
    {methodName methodSignature : Symbol} {checkAccess initializeClass : Bool} {s s' : σ}
    {ci : CallInfo}
    (hci : resolveStaticCall rt resolvedKlass methodName methodSignature currentKlass checkAccess
      initializeClass s = .ok ci s') :
    ∃ m, linktimeResolveStaticMethod rt resolvedKlass methodName methodSignature currentKlass
        checkAccess = .ok m ∧
      ((initializeClass && rt.shouldBeInitialized m.holder s) = false ∧ s' = s ∧
          ci = CallInfo.setStatic m.holder m ∨
        (initializeClass && rt.shouldBeInitialized m.holder s) = true ∧
          rt.initializeKlass m.holder s = .ok () s' ∧
          ∃ m', linktimeResolveStaticMethod rt m.holder methodName methodSignature currentKlass
            checkAccess = .ok m' ∧ ci = CallInfo.setStatic m.holder m') := by
  obtain ⟨m, s₁, hlift, hci⟩ := eStateM_bind_eq_ok.mp hci
  obtain ⟨hm, rfl⟩ := liftExcept_eq_ok.mp hlift
  refine ⟨m, hm, ?_⟩
  obtain ⟨state, s₂, hget, hci⟩ := eStateM_bind_eq_ok.mp hci
  cases hget
  split at hci
  · rename_i hc
    obtain ⟨_, s₃, hinit, hci⟩ := eStateM_bind_eq_ok.mp hci
    obtain ⟨m', s₄, hlift, hci⟩ := eStateM_bind_eq_ok.mp hci
    obtain ⟨hm', rfl⟩ := liftExcept_eq_ok.mp hlift
    obtain ⟨rfl, rfl⟩ := eStateM_pure_eq_ok.mp hci
    exact .inr ⟨hc, liftThrowable_eq_ok.mp hinit, m', hm', rfl⟩
  · rename_i hc
    obtain ⟨_, s₃, hp, hci⟩ := eStateM_bind_eq_ok.mp hci
    obtain ⟨-, rfl⟩ := eStateM_pure_eq_ok.mp hp
    obtain ⟨rfl, rfl⟩ := eStateM_pure_eq_ok.mp hci
    exact .inl ⟨by simpa using hc, rfl, rfl⟩

theorem resolveHandleCall_eq_ok {resolvedKlass currentKlass : KlassId}
    {methodName methodSignature : Symbol} {checkAccess : Bool} {s s' : σ} {ci : CallInfo}
    (hci : resolveHandleCall rt resolvedKlass methodName methodSignature currentKlass checkAccess
      s = .ok ci s') :
    ∃ found s₁, lookupPolymorphicMethod rt resolvedKlass methodName methodSignature
        currentKlass s = .ok found s₁ ∧ s' = s₁ ∧
      CallInfo.setHandle h (found.map (·.1)) (found.bind (·.2.1)) (found.bind (·.2.2)) =
        .ok ci := by
  obtain ⟨found, s₁, hfound, hci⟩ := eStateM_bind_eq_ok.mp hci
  obtain ⟨_, s₂, hcheck, hci⟩ := eStateM_bind_eq_ok.mp hci
  obtain ⟨hset, rfl⟩ := liftExcept_eq_ok.mp hci
  refine ⟨found, s₁, hfound, ?_, hset⟩
  split at hcheck
  · cases found with
    | none => cases hcheck
    | some f => exact (liftExcept_eq_ok.mp hcheck).2.symm
  · exact (eStateM_pure_eq_ok.mp hcheck).2.symm

theorem resolveDynamicCall_eq_ok {bootstrapSpecifier : Option Oop}
    {methodName methodSignature : Symbol} {currentKlass : KlassId} {s s' : σ} {ci : CallInfo}
    (hci : resolveDynamicCall rt bootstrapSpecifier methodName methodSignature currentKlass s =
      .ok ci s') :
    ∃ invoker s₁, rt.findDynamicCallSiteInvoker currentKlass bootstrapSpecifier methodName
        methodSignature s = .ok invoker s₁ ∧ s' = s₁ ∧
      CallInfo.setHandle h invoker.1 invoker.2.1 invoker.2.2 = .ok ci := by
  unfold resolveDynamicCall at hci
  split at hci
  · cases hci
  · rename_i invoker s₁ hinv
    obtain ⟨hset, rfl⟩ := liftExcept_eq_ok.mp hci
    exact ⟨_, _, hinv, rfl, hset⟩

/-! ## Loader constraints -/

theorem resolveSpecialCall_selected {resolvedKlass currentKlass : KlassId}
    {methodName methodSignature : Symbol} {checkAccess : Bool} {m : Method} {ci : CallInfo}
    (hm : linktimeResolveSpecialMethod rt resolvedKlass methodName methodSignature currentKlass
      checkAccess = .ok m)
    (hci : resolveSpecialCall rt resolvedKlass methodName methodSignature currentKlass
      checkAccess = .ok ci) :
    ci.selectedMethod = m ∨
      isSuperCall rt m currentKlass checkAccess = true ∧
      lookupSuperMethod rt m currentKlass = .ok ci.selectedMethod := by
  obtain ⟨m', hm', hci⟩ := except_bind_eq_ok.mp hci
  rw [hm] at hm'
  cases hm'
  obtain ⟨sel, hsel, -, -, rfl⟩ := runtimeResolveSpecialMethod_eq_ok hci
  split at hsel
  · exact .inr ⟨‹_›, hsel⟩
  · exact .inl hsel

/-- **Loader constraints.** Every successful method, interface-method and field resolution,
and every super call that selected another method, found no conflict on the loaders it names. -/
theorem resolution_checks_loader_constraints (rt : Runtime h σ) :
    (∀ resolvedKlass name signature currentKlass m,
      resolveMethod rt resolvedKlass name signature currentKlass true = .ok m →
        rt.checkSignatureLoaders signature (h.klass currentKlass).classLoader
          (h.klass m.holder).classLoader true = .ok none) ∧
    (∀ resolvedKlass name signature currentKlass m,
      resolveInterfaceMethod rt resolvedKlass name signature currentKlass true = .ok m →
        rt.checkSignatureLoaders signature (h.klass currentKlass).classLoader
          (h.klass m.holder).classLoader true = .ok none) ∧
    (∀ pool index byte checkOnly updatePool (s s' : σ) info,
      resolveField rt pool index byte checkOnly updatePool s = .ok info s' →
        rt.checkSignatureLoaders (pool.signatureRefAt index) (h.klass pool.poolHolder).classLoader
          (h.klass info.klass).classLoader false = .ok none) ∧
    (∀ resolvedKlass name signature currentKlass checkAccess m ci,
      linktimeResolveSpecialMethod rt resolvedKlass name signature currentKlass checkAccess =
        .ok m →
      resolveSpecialCall rt resolvedKlass name signature currentKlass checkAccess = .ok ci →
      ci.selectedMethod ≠ m →
        rt.checkSignatureLoaders ci.selectedMethod.signature (h.klass currentKlass).classLoader
          (h.klass ci.selectedMethod.holder).classLoader true = .ok none) := by
  refine ⟨fun _ _ _ _ _ hm => ?_, fun _ _ _ _ _ hm => ?_, fun _ _ _ _ _ _ _ _ hf => ?_,
    fun _ _ _ _ _ _ _ hm hci hne => ?_⟩
  · exact checkSignatureLoaders_eq_ok.mp ((resolveMethod_eq_ok hm).2.2.2 rfl).2
  · exact checkSignatureLoaders_eq_ok.mp ((resolveInterfaceMethod_eq_ok hm).2.2 rfl)
  · obtain ⟨selKlass, fd, -, -, hc, rfl⟩ := resolveField_eq_ok hf
    exact checkSignatureLoaders_eq_ok.mp hc
  · rcases resolveSpecialCall_selected hm hci with hsel | ⟨-, hsuper⟩
    · exact absurd hsel hne
    · obtain ⟨-, -, -, hc⟩ := lookupSuperMethod_eq_ok hsuper
      exact checkSignatureLoaders_eq_ok.mp (hc hne)

/-! ## A hierarchy with overrides and a miranda slot -/

def objectToString : Method :=
  { holder := 0, name := "toString", signature := "()Ljava/lang/String;",
    flags := { isPublic := true }, vtableIndex := 0 }

def objectGetClass : Method :=
  { holder := 0, name := "getClass", signature := "()Ljava/lang/Class;",
    flags := { isPublic := true, isFinal := true } }

def interfaceM : Method :=
  { holder := 2, name := "m", signature := "()V", flags := { isPublic := true, isAbstract := true } }

def overridingToString : Method :=
  { holder := 4, name := "toString", signature := "()Ljava/lang/String;",
    flags := { isPublic := true }, vtableIndex := 0 }

def implementingM : Method :=
  { holder := 4, name := "m", signature := "()V", flags := { isPublic := true }, vtableIndex := 1 }

/-- `Object` (`toString` in slot 0, `getClass`), `MethodHandle`, an interface `J` with `m()`,
`K implements J` with a miranda slot for `J.m`, and `L extends K` overriding both. -/
def mirandaKlasses : List Klass :=
  [{ super := none, methods := [objectToString, objectGetClass], vtable := [objectToString] },
   { super := some 0, isAbstract := true, vtable := [objectToString] },
   { super := some 0, isInterface := true, isAbstract := true, methods := [interfaceM],
     vtable := [objectToString] },
   { super := some 0, isAbstract := true, localInterfaces := [2], transitiveInterfaces := [2],
     vtable := [objectToString, interfaceM] },
   { super := some 3, transitiveInterfaces := [2], methods := [overridingToString, implementingM],
     vtable := [overridingToString, implementingM] }]

def mirandaHierarchy : Hierarchy := Hierarchy.ofArena mirandaKlasses 0 1 (by decide)

/-! ## Linkages of the kind asked for -/

theorem resolveStaticCall_links_static {resolvedKlass currentKlass : KlassId}
    {methodName methodSignature : Symbol} {checkAccess initializeClass : Bool} {s s' : σ}
    {ci : CallInfo}
    (hci : resolveStaticCall rt resolvedKlass methodName methodSignature currentKlass checkAccess
      initializeClass s = .ok ci s') :
    ci.selectedMethod = ci.resolvedMethod ∧ ci.resolvedMethod.flags.isStatic = true ∧
      ci.resolvedKlass = ci.resolvedMethod.holder := by
  obtain ⟨m, hm, ⟨-, -, rfl⟩ | ⟨-, -, m', hm', rfl⟩⟩ := resolveStaticCall_eq_ok hci
  · exact ⟨rfl, (linktimeResolveStaticMethod_eq_ok hm).2, rfl⟩
  · obtain ⟨hres, -⟩ := linktimeResolveStaticMethod_eq_ok hm
    obtain ⟨hres', hstatic⟩ := linktimeResolveStaticMethod_eq_ok hm'
    cases resolveMethod_holder hres hres'
    exact ⟨rfl, hstatic, rfl⟩

theorem resolveVirtualCall_selected {recv : Option Oop} {recvKlass resolvedKlass : KlassId}
    {methodName methodSignature : Symbol} {currentKlass : KlassId}
    {checkAccess checkNullAndAbstract : Bool} {ci : CallInfo}
    (hci : resolveVirtualCall rt recv recvKlass resolvedKlass methodName methodSignature
      currentKlass checkAccess checkNullAndAbstract = .ok ci) :
    linktimeResolveVirtualMethod rt resolvedKlass methodName methodSignature currentKlass
        checkAccess = .ok ci.resolvedMethod ∧
      (checkNullAndAbstract = true → ci.selectedMethod.flags.isAbstract = false) ∧
      (ci.vtableIndex = nonvirtualVtableIndex ∧ ci.selectedMethod = ci.resolvedMethod ∨
        ci.vtableIndex ≠ nonvirtualVtableIndex ∧
          h.vtableAt recvKlass ci.vtableIndex = some (some ci.selectedMethod)) := by
  obtain ⟨m, hm, hci⟩ := except_bind_eq_ok.mp hci
  obtain ⟨idx, sel, hsel, hcheck, rfl⟩ := runtimeResolveVirtualMethod_eq_ok hci
  refine ⟨hm, fun hc => (hcheck hc).2, ?_⟩
  rcases selectVirtualMethod_eq_ok hsel with
    ⟨-, -, hread⟩ | ⟨-, -, rfl, hselected⟩ | ⟨-, hnv, rfl, hread⟩
  · refine .inr ⟨fun hnv => ?_, hread⟩
    have hnonneg := (Hierarchy.vtableAt_eq_some hread).1
    change idx = nonvirtualVtableIndex at hnv
    rw [hnv] at hnonneg
    exact absurd hnonneg (by decide)
  · cases hselected
    exact .inl ⟨rfl, rfl⟩
  · exact .inr ⟨hnv, hread⟩

/-- **Linkages of the kind asked for.** With no static method in a vtable, every linkage
selects a method of the kind its bytecode asks for, and a field access the kind of field. -/
theorem resolution_links_requested_kind (hvt : h.NoStaticInVtables) (rt : Runtime h σ) :
    (∀ resolvedKlass name signature currentKlass checkAccess initializeClass (s s' : σ) ci,
      resolveStaticCall rt resolvedKlass name signature currentKlass checkAccess
        initializeClass s = .ok ci s' →
      ci.selectedMethod = ci.resolvedMethod ∧ ci.resolvedMethod.flags.isStatic = true ∧
        ci.resolvedKlass = ci.resolvedMethod.holder) ∧
    (∀ resolvedKlass name signature currentKlass checkAccess ci,
      resolveSpecialCall rt resolvedKlass name signature currentKlass checkAccess = .ok ci →
      ci.selectedMethod.flags.isStatic = false ∧ ci.selectedMethod.flags.isAbstract = false) ∧
    (∀ recv recvKlass resolvedKlass name signature currentKlass checkAccess
        checkNullAndAbstract ci,
      resolveVirtualCall rt recv recvKlass resolvedKlass name signature currentKlass
        checkAccess checkNullAndAbstract = .ok ci →
      ci.resolvedMethod.flags.isStatic = false ∧ ci.selectedMethod.flags.isStatic = false ∧
        (checkNullAndAbstract = true → ci.selectedMethod.flags.isAbstract = false) ∧
        (ci.vtableIndex = nonvirtualVtableIndex → ci.selectedMethod = ci.resolvedMethod)) ∧
    (∀ recv recvKlass resolvedKlass name signature currentKlass checkAccess
        checkNullAndAbstract ci,
      resolveInterfaceCall rt recv recvKlass resolvedKlass name signature currentKlass
        checkAccess checkNullAndAbstract = .ok ci →
      h.isSubtypeOf recvKlass resolvedKlass = true ∧ ci.selectedMethod.flags.isPublic = true ∧
        ci.selectedMethod.flags.isStatic = false ∧
        (checkNullAndAbstract = true → ci.selectedMethod.flags.isAbstract = false)) ∧
    (∀ pool index byte checkOnly updatePool (s s' : σ) info,
      resolveField rt pool index byte checkOnly updatePool s = .ok info s' →
      info.accessFlags.isStatic = (byte == .getstatic || byte == .putstatic) ∧
        ((byte == .putfield || byte == .putstatic) = true → info.accessFlags.isFinal = true →
          info.klass = pool.poolHolder)) := by
  refine ⟨fun _ _ _ _ _ _ _ _ _ hci => resolveStaticCall_links_static hci,
    fun _ _ _ _ _ _ hci => ?_, fun _ _ _ _ _ _ _ _ _ hci => ?_,
    fun _ _ _ _ _ _ _ _ _ hci => ?_, fun _ _ _ _ _ _ _ _ hf => ?_⟩
  · obtain ⟨m, -, hci⟩ := except_bind_eq_ok.mp hci
    obtain ⟨sel, -, hstatic, habs, rfl⟩ := runtimeResolveSpecialMethod_eq_ok hci
    exact ⟨hstatic, habs⟩
  · obtain ⟨hm, habs, hsel⟩ := resolveVirtualCall_selected hci
    have hstatic := (linktimeResolveVirtualMethod_eq_ok hm).2
    rcases hsel with ⟨-, hsel⟩ | ⟨hne, hread⟩
    · exact ⟨hstatic, by rwa [hsel], habs, fun _ => hsel⟩
    · exact ⟨hstatic, hvt _ _ _ hread, habs, fun hnv => absurd hnv hne⟩
  · obtain ⟨m, -, hci⟩ := except_bind_eq_ok.mp hci
    obtain ⟨hsub, sel, hfound, hpublic, hcheck, rfl⟩ := runtimeResolveInterfaceMethod_eq_ok hci
    exact ⟨hsub, hpublic,
      (Hierarchy.nearestInstanceMethod_eq_some (lookupInstanceMethodInKlasses_eq_ok_some hfound)).1,
      fun hc => (hcheck hc).2⟩
  · obtain ⟨selKlass, fd, hfc, -, -, rfl⟩ := resolveField_eq_ok hf
    obtain ⟨-, -, -, -, hstatic, hfinal⟩ := findAndCheckField_eq_ok hfc
    exact ⟨hstatic, hfinal⟩

/-- `invokevirtual K.m()` on an `L` resolves the abstract `J.m` and selects `L.m` through `K`'s
miranda slot: an instance method, not abstract, read at a vtable index. -/
theorem mirandaCall_links_instance_method :
    mirandaHierarchy.NoStaticInVtables ∧
      resolveVirtualCall (Runtime.ofSpec mirandaHierarchy Unit) (some 0) 4 3 "m" "()V" 4 true
          true = .ok (CallInfo.setVirtual 3 4 interfaceM implementingM 1) ∧
      interfaceM.flags.isStatic = false ∧ implementingM.flags.isStatic = false ∧
      (true = true → implementingM.flags.isAbstract = false) ∧
      ((1 : Int) = nonvirtualVtableIndex → implementingM = interfaceM) := by
  have hvt : mirandaHierarchy.NoStaticInVtables := .of_check Arena.defaultFrom (by decide)
  have hci : resolveVirtualCall (Runtime.ofSpec mirandaHierarchy Unit) (some 0) 4 3 "m" "()V" 4
      true true = .ok (CallInfo.setVirtual 3 4 interfaceM implementingM 1) := rfl
  exact ⟨hvt, hci, (resolution_links_requested_kind hvt (Runtime.ofSpec mirandaHierarchy Unit)).2.2.1
    _ _ _ _ _ _ _ _ _ hci⟩

/-! ## Resolved and selected methods -/

theorem resolveVirtualCall_sameDescriptor (hslots : h.VtableSlotsMatch) {recv : Option Oop}
    {recvKlass resolvedKlass : KlassId} {methodName methodSignature : Symbol}
    {currentKlass : KlassId} {checkAccess checkNullAndAbstract : Bool} {ci : CallInfo}
    (hsub : h.isSubtypeOf recvKlass resolvedKlass = true)
    (hci : resolveVirtualCall rt recv recvKlass resolvedKlass methodName methodSignature
      currentKlass checkAccess checkNullAndAbstract = .ok ci) :
    ci.SameDescriptor := by
  obtain ⟨m, hm, hci⟩ := except_bind_eq_ok.mp hci
  obtain ⟨idx, sel, hsel, -, rfl⟩ := runtimeResolveVirtualMethod_eq_ok hci
  obtain ⟨hclass, hlookup, -⟩ := resolveMethod_eq_ok (linktimeResolveVirtualMethod_eq_ok hm).1
  have hK := Hierarchy.mem_superChain_of_isSubtypeOf hsub hclass
  show m.name = sel.name ∧ m.signature = sel.signature
  rcases selectVirtualMethod_eq_ok hsel with
    ⟨-, rfl, hread⟩ | ⟨-, -, -, hselected⟩ | ⟨hi, hnv, rfl, hread⟩
  · have hidx := (Hierarchy.vtableAt_eq_some hread).1
    rcases Hierarchy.indexOfMiranda_spec resolvedKlass m.name m.signature with
      hinv | ⟨e, he, -, hname, hsig⟩
    · rw [vtableIndexOfMirandaMethod, hinv] at hidx
      exact absurd hidx (by decide)
    · obtain ⟨h1, h2⟩ := hslots.slot_of_super _ _ hK _ _ _ he hread
      exact ⟨h1 ▸ hname.symm, h2 ▸ hsig.symm⟩
  · cases hselected
    exact ⟨rfl, rfl⟩
  · have hidx := (Hierarchy.vtableAt_eq_some hread).1
    rcases resolveMethodLookup_eq_some hlookup with hk | ⟨-, -, hintf | ⟨-, hintr⟩⟩
    · have hu := lookupMethodInKlasses_eq_some hk
      obtain ⟨-, -, -, hfound⟩ := Hierarchy.uncachedLookupMethod_eq_some hu
      obtain ⟨e, he, hname, hsig⟩ :=
        hslots.slot_of_vtableIndex _ _ (Hierarchy.findMethod_eq_some hfound).1 hidx
      have hholder := Hierarchy.superChain_trans hK (Hierarchy.uncachedLookupMethod_holder_mem hu)
      obtain ⟨h1, h2⟩ := hslots.slot_of_super _ _ hholder _ _ _ he hread
      exact ⟨h1 ▸ hname.symm, h2 ▸ hsig.symm⟩
    · obtain ⟨hmem, -⟩ := Hierarchy.lookupMethodInAllInterfaces_eq_some hintf
      rw [h.isInterface_of_mem_transitiveInterfaces _ _ hmem] at hi
      cases hi
    · exact absurd (lookupPolymorphicIntrinsic_eq_some hintr).2.2 hnv

theorem resolveInterfaceCall_sameDescriptor {recv : Option Oop}
    {recvKlass resolvedKlass : KlassId} {methodName methodSignature : Symbol}
    {currentKlass : KlassId} {checkAccess checkNullAndAbstract : Bool} {ci : CallInfo}
    (hci : resolveInterfaceCall rt recv recvKlass resolvedKlass methodName methodSignature
      currentKlass checkAccess checkNullAndAbstract = .ok ci) :
    ci.SameDescriptor := by
  obtain ⟨m, -, hci⟩ := except_bind_eq_ok.mp hci
  obtain ⟨-, sel, hfound, -, -, rfl⟩ := runtimeResolveInterfaceMethod_eq_ok hci
  obtain ⟨-, hdecl, -⟩ :=
    Hierarchy.nearestInstanceMethod_eq_some (lookupInstanceMethodInKlasses_eq_ok_some hfound)
  obtain ⟨-, -, hname, hsig⟩ := Hierarchy.findMethod_eq_some hdecl
  exact ⟨hname.symm, hsig.symm⟩

/-- **Resolved and selected methods agree.** With vtable slots that agree on names, every
linkage's resolved and selected methods share their name and signature. -/
theorem resolved_and_selected_share_descriptor (hslots : h.VtableSlotsMatch)
    (rt : Runtime h σ) :
    (∀ resolvedKlass name signature currentKlass checkAccess initializeClass (s s' : σ) ci,
      resolveStaticCall rt resolvedKlass name signature currentKlass checkAccess
        initializeClass s = .ok ci s' → ci.SameDescriptor) ∧
    (∀ resolvedKlass name signature currentKlass checkAccess ci,
      resolveSpecialCall rt resolvedKlass name signature currentKlass checkAccess = .ok ci →
        ci.SameDescriptor) ∧
    (∀ recv recvKlass resolvedKlass name signature currentKlass checkAccess
        checkNullAndAbstract ci,
      h.isSubtypeOf recvKlass resolvedKlass = true →
      resolveVirtualCall rt recv recvKlass resolvedKlass name signature currentKlass
        checkAccess checkNullAndAbstract = .ok ci → ci.SameDescriptor) ∧
    (∀ recv recvKlass resolvedKlass name signature currentKlass checkAccess
        checkNullAndAbstract ci,
      resolveInterfaceCall rt recv recvKlass resolvedKlass name signature currentKlass
        checkAccess checkNullAndAbstract = .ok ci → ci.SameDescriptor) ∧
    (∀ resolvedKlass name signature currentKlass checkAccess (s s' : σ) ci,
      resolveHandleCall rt resolvedKlass name signature currentKlass checkAccess s =
        .ok ci s' → ci.SameDescriptor) ∧
    (∀ bootstrapSpecifier name signature currentKlass (s s' : σ) ci,
      resolveDynamicCall rt bootstrapSpecifier name signature currentKlass s = .ok ci s' →
        ci.SameDescriptor) := by
  refine ⟨fun _ _ _ _ _ _ _ _ ci hci => ?_, fun _ _ _ _ _ _ hci => ?_,
    fun _ _ _ _ _ _ _ _ _ hsub hci => resolveVirtualCall_sameDescriptor hslots hsub hci,
    fun _ _ _ _ _ _ _ _ _ hci => resolveInterfaceCall_sameDescriptor hci,
    fun _ _ _ _ _ _ _ _ hci => ?_, fun _ _ _ _ _ _ _ hci => ?_⟩
  · rw [CallInfo.SameDescriptor, (resolveStaticCall_links_static hci).1]
    exact ⟨rfl, rfl⟩
  · obtain ⟨m, -, hci⟩ := except_bind_eq_ok.mp hci
    obtain ⟨sel, -, -, -, rfl⟩ := runtimeResolveSpecialMethod_eq_ok hci
    exact ⟨rfl, rfl⟩
  · obtain ⟨found, s₁, -, -, hset⟩ := resolveHandleCall_eq_ok hci
    obtain ⟨m, -, h1, h2, -⟩ := setHandle_eq_ok hset
    exact ⟨by rw [h1, h2], by rw [h1, h2]⟩
  · obtain ⟨invoker, s₁, -, -, hset⟩ := resolveDynamicCall_eq_ok hci
    obtain ⟨m, -, h1, h2, -⟩ := setHandle_eq_ok hset
    exact ⟨by rw [h1, h2], by rw [h1, h2]⟩

/-- `K.toString()` and `K.m()` on an `L`: one through `Object.toString`'s slot, one through
`K`'s miranda slot, each selecting `L`'s method. -/
theorem overridingCalls_share_descriptor :
    mirandaHierarchy.VtableSlotsMatch ∧ mirandaHierarchy.isSubtypeOf 4 3 = true ∧
      resolveVirtualCall (Runtime.ofSpec mirandaHierarchy Unit) (some 0) 4 3 "toString"
          "()Ljava/lang/String;" 4 true true =
        .ok (CallInfo.setVirtual 3 4 objectToString overridingToString 0) ∧
      (CallInfo.setVirtual 3 4 objectToString overridingToString 0).SameDescriptor ∧
      resolveVirtualCall (Runtime.ofSpec mirandaHierarchy Unit) (some 0) 4 3 "m" "()V" 4 true
          true = .ok (CallInfo.setVirtual 3 4 interfaceM implementingM 1) ∧
      (CallInfo.setVirtual 3 4 interfaceM implementingM 1).SameDescriptor := by
  have hslots : mirandaHierarchy.VtableSlotsMatch := .of_check Arena.defaultFrom (by decide)
  have hsub : mirandaHierarchy.isSubtypeOf 4 3 = true := rfl
  have hslot : resolveVirtualCall (Runtime.ofSpec mirandaHierarchy Unit) (some 0) 4 3 "toString"
      "()Ljava/lang/String;" 4 true true =
      .ok (CallInfo.setVirtual 3 4 objectToString overridingToString 0) := rfl
  have hmiranda : resolveVirtualCall (Runtime.ofSpec mirandaHierarchy Unit) (some 0) 4 3 "m"
      "()V" 4 true true = .ok (CallInfo.setVirtual 3 4 interfaceM implementingM 1) := rfl
  have hshare :=
    (resolved_and_selected_share_descriptor hslots (Runtime.ofSpec mirandaHierarchy Unit)).2.2.1
  exact ⟨hslots, hsub, hslot, hshare _ _ _ _ _ _ _ _ _ hsub hslot, hmiranda,
    hshare _ _ _ _ _ _ _ _ _ hsub hmiranda⟩

/-! ## Old-style super calls -/

end LinkResolver

end HotspotLinking
