import HotspotLinking.Proof.InstanceLookup

/-!
# What a resolution has checked

One inversion lemma each for `resolve_method`, `resolve_interface_method` and
`resolve_field`, listing every check a successful call made, and where the lookup behind
`resolve_method` finds its method.

Two consequences. A method `resolve_method` resolves with access checking, and every field
`resolve_field` resolves, passed the access checker; `resolve_interface_method` makes no access
check, and through an interface that `Object` stands behind it returns a protected `Object`
method to a class the checker refuses. And `resolve_field` initializes the klass declaring a
static field before it checks loader constraints, so a resolution that fails there has already
run a static initializer.
-/

namespace HotspotLinking

namespace LinkResolver

variable {σ : Type} {h : Hierarchy} {rt : Runtime h σ}

/-! ## The checks -/

@[simp]
theorem checkMethodAccessability_eq_ok {refKlass resolvedKlass selKlass : KlassId}
    {selMethod : Method} :
    checkMethodAccessability rt refKlass resolvedKlass selKlass selMethod = .ok () ↔
      rt.verifyFieldAccess refKlass resolvedKlass selKlass
        (accessabilityFlags h resolvedKlass selKlass selMethod) true = true := by
  unfold checkMethodAccessability
  split <;> simp_all

@[simp]
theorem checkFieldAccessability_eq_ok {refKlass resolvedKlass selKlass : KlassId}
    {fd : FieldInfo} :
    checkFieldAccessability rt refKlass resolvedKlass selKlass fd = .ok () ↔
      rt.verifyFieldAccess refKlass resolvedKlass selKlass fd.flags true = true := by
  unfold checkFieldAccessability
  split <;> simp_all

@[simp]
theorem checkSignatureLoaders_eq_ok {signature : Symbol} {loader1 loader2 : LoaderId}
    {isMethod : Bool} :
    checkSignatureLoaders rt signature loader1 loader2 isMethod = .ok () ↔
      rt.checkSignatureLoaders signature loader1 loader2 isMethod = .ok none := by
  unfold checkSignatureLoaders
  split <;> simp_all

/-! ## Where `resolve_method` finds a method -/

theorem lookupPolymorphicIntrinsic_eq_some {klass : KlassId} {name fullSignature : Symbol}
    {m : Method} (hm : lookupPolymorphicIntrinsic rt klass name fullSignature = .ok (some m)) :
    klass = h.methodHandleKlass ∧ m.holder = h.methodHandleKlass ∧
      m.vtableIndex = nonvirtualVtableIndex := by
  unfold lookupPolymorphicIntrinsic at hm
  dsimp only at hm
  split at hm
  · rename_i hcond
    simp only [Bool.and_eq_true, beq_iff_eq] at hcond
    cases hi : rt.findMethodHandleIntrinsic (signaturePolymorphicNameId name)
        (rt.lookupBasicTypeSignature fullSignature
          (signaturePolymorphicNameId name).isSignaturePolymorphicStatic) with
    | error e => simp [hi, Except.map] at hm
    | ok m' =>
      simp only [hi, Except.map, Except.ok.injEq, Option.some.injEq] at hm
      subst hm
      exact ⟨hcond.1.1.2, rt.findMethodHandleIntrinsic_holder _ _ _ hi⟩
  · cases hm

theorem resolveMethodLookup_eq_some {resolvedKlass : KlassId} {name signature : Symbol}
    {m : Method} (hm : (resolveMethodLookup rt resolvedKlass name signature).1 = some m) :
    lookupMethodInKlasses rt resolvedKlass name signature = some m ∨
      lookupMethodInKlasses rt resolvedKlass name signature = none ∧
        (h.klass resolvedKlass).isArray = false ∧
        (lookupMethodInInterfaces h resolvedKlass name signature = some m ∨
          lookupMethodInInterfaces h resolvedKlass name signature = none ∧
            lookupPolymorphicIntrinsic rt resolvedKlass name signature = .ok (some m)) := by
  unfold resolveMethodLookup at hm
  split at hm
  · cases hm; exact .inl ‹_›
  · rename_i hk
    split at hm; · cases hm
    rename_i ha
    split at hm
    · cases hm; exact .inr ⟨hk, by simpa using ha, .inl ‹_›⟩
    · split at hm
      · subst hm; exact .inr ⟨hk, by simpa using ha, .inr ⟨‹_›, ‹_›⟩⟩
      · cases hm

theorem lookupMethodInKlasses_holder {klass : KlassId} {name signature : Symbol} {m : Method}
    (hm : lookupMethodInKlasses rt klass name signature = some m) :
    lookupMethodInKlasses rt m.holder name signature = some m := by
  have hu := lookupMethodInKlasses_eq_some hm
  obtain ⟨-, -, -, hfound⟩ := Hierarchy.uncachedLookupMethod_eq_some hu
  obtain ⟨hmem, -⟩ := Hierarchy.findMethod_eq_some hfound
  have hu' : h.uncachedLookupMethod m.holder name signature = some m := by
    rw [Hierarchy.uncachedLookupMethod_eq, hfound, Option.or_some]
  unfold lookupMethodInKlasses at hm ⊢
  rw [hu] at hm
  rw [hu']
  simp only at hm ⊢
  split; · rfl
  rename_i hholder
  split
  · rename_i hsp
    exfalso
    simp only [Bool.and_eq_true] at hsp
    have hmh := h.mem_methodHandle_of_signaturePolymorphic _ _ hmem hsp.2
    by_cases ha : (h.klass klass).isArray = true
    · rcases Hierarchy.isArray_or_object_of_mem_superChain ha
        (Hierarchy.uncachedLookupMethod_holder_mem hu) with harr | hobj
      · exact hholder harr
      · exact h.methodHandle_ne_object (hmh ▸ hobj)
    · simp [ha, hsp.1, hsp.2] at hm
  · rfl

theorem resolveMethodLookup_holder {resolvedKlass : KlassId} {name signature : Symbol}
    {m : Method} (hm : (resolveMethodLookup rt resolvedKlass name signature).1 = some m)
    (hclass : (h.klass m.holder).isInterface = false) :
    (resolveMethodLookup rt m.holder name signature).1 = some m := by
  rcases resolveMethodLookup_eq_some hm with hk | ⟨-, -, hi | ⟨-, hi⟩⟩
  · simp [resolveMethodLookup, lookupMethodInKlasses_holder hk]
  · obtain ⟨hmem, -⟩ := Hierarchy.lookupMethodInAllInterfaces_eq_some hi
    rw [h.isInterface_of_mem_transitiveInterfaces _ _ hmem] at hclass
    cases hclass
  · obtain ⟨hK, hholder, -⟩ := lookupPolymorphicIntrinsic_eq_some hi
    rwa [hholder, ← hK]

/-! ## `resolve_method` and `resolve_interface_method` -/

theorem resolveMethod_eq_ok {resolvedKlass currentKlass : KlassId}
    {methodName methodSignature : Symbol} {checkAccess : Bool} {m : Method}
    (hm : resolveMethod rt resolvedKlass methodName methodSignature currentKlass checkAccess =
      .ok m) :
    (h.klass resolvedKlass).isInterface = false ∧
      (resolveMethodLookup rt resolvedKlass methodName methodSignature).1 = some m ∧
      (m.flags.isAbstract = true → (h.klass resolvedKlass).isAbstract = true) ∧
      (checkAccess = true →
        checkMethodAccessability rt currentKlass resolvedKlass m.holder m = .ok () ∧
        checkMethodLoaderConstraints rt m methodSignature currentKlass = .ok ()) := by
  unfold resolveMethod at hm
  simp only [bind, Except.bind, pure, Except.pure, throw, throwThe, MonadExceptOf.throw] at hm
  split at hm; · cases hm
  rename_i hi
  split at hm
  · rename_i hl
    split at hm; · cases hm
    rename_i habs
    split at hm
    · split at hm; · cases hm
      rename_i hacc
      split at hm; · cases hm
      cases hm
      exact ⟨by simpa using hi, hl, by simpa using habs, fun _ => ⟨hacc, ‹_›⟩⟩
    · cases hm
      exact ⟨by simpa using hi, hl, by simpa using habs, fun h => absurd h ‹_›⟩
  · cases hm

theorem resolveMethod_holder {resolvedKlass currentKlass : KlassId}
    {methodName methodSignature : Symbol} {checkAccess : Bool} {m m' : Method}
    (hm : resolveMethod rt resolvedKlass methodName methodSignature currentKlass checkAccess =
      .ok m)
    (hm' : resolveMethod rt m.holder methodName methodSignature currentKlass checkAccess =
      .ok m') :
    m' = m := by
  obtain ⟨-, hl, -⟩ := resolveMethod_eq_ok hm
  obtain ⟨hclass, hl', -⟩ := resolveMethod_eq_ok hm'
  rw [resolveMethodLookup_holder hl hclass] at hl'
  exact (Option.some.inj hl').symm

theorem resolveInterfaceMethod_eq_ok {resolvedKlass currentKlass : KlassId}
    {methodName methodSignature : Symbol} {checkAccess : Bool} {m : Method}
    (hm : resolveInterfaceMethod rt resolvedKlass methodName methodSignature currentKlass
      checkAccess = .ok m) :
    (h.klass resolvedKlass).isInterface = true ∧
      (lookupInstanceMethodInKlasses h resolvedKlass methodName methodSignature = .ok (some m) ∨
        lookupInstanceMethodInKlasses h resolvedKlass methodName methodSignature = .ok none ∧
          (h.klass resolvedKlass).isArray = false ∧
          lookupMethodInInterfaces h resolvedKlass methodName methodSignature = some m) ∧
      (checkAccess = true →
        checkMethodLoaderConstraints rt m methodSignature currentKlass = .ok ()) := by
  unfold resolveInterfaceMethod at hm
  simp only [bind, Except.bind, pure, Except.pure, throw, throwThe, MonadExceptOf.throw] at hm
  split at hm; · cases hm
  rename_i hi
  split at hm; · cases hm
  rename_i found hfound
  refine ⟨by simpa using hi, ?_⟩
  split at hm
  · rename_i r hr
    have hfound' :
        lookupInstanceMethodInKlasses h resolvedKlass methodName methodSignature =
            .ok (some r) ∨
          lookupInstanceMethodInKlasses h resolvedKlass methodName methodSignature = .ok none ∧
            (h.klass resolvedKlass).isArray = false ∧
            lookupMethodInInterfaces h resolvedKlass methodName methodSignature = some r := by
      cases found with
      | some r' => cases hr; exact .inl hfound
      | none =>
        cases ha : (h.klass resolvedKlass).isArray
        · simp only [ha] at hr
          exact .inr ⟨hfound, rfl, hr⟩
        · simp [ha] at hr
    split at hm
    · split at hm; · cases hm
      cases hm
      exact ⟨hfound', fun _ => ‹_›⟩
    · cases hm
      exact ⟨hfound', fun h => absurd h ‹_›⟩
  · cases hm

/-! ## `resolve_field` -/

theorem findAndCheckField_eq_ok {pool : ConstantPool} {index : Nat} {byte : Bytecode}
    {updatePool : Bool} {selKlass : KlassId} {fd : FieldInfo}
    (hf : findAndCheckField rt pool index byte updatePool = .ok (selKlass, fd)) :
    ∃ resolvedKlass,
      (if updatePool then (pool.klassRefAt index).map some else pool.klassRefAtIfLoaded index) =
        .ok (some resolvedKlass) ∧
      h.findField resolvedKlass (pool.nameRefAt index) (pool.signatureRefAt index) =
        some (selKlass, fd) ∧
      checkFieldAccessability rt pool.poolHolder resolvedKlass selKlass fd = .ok () ∧
      fd.flags.isStatic = (byte == .getstatic || byte == .putstatic) ∧
      ((byte == .putfield || byte == .putstatic) = true → fd.flags.isFinal = true →
        selKlass = pool.poolHolder) := by
  unfold findAndCheckField at hf
  simp only [bind, Except.bind, pure, Except.pure, throw, throwThe, MonadExceptOf.throw] at hf
  generalize (if updatePool = true then (pool.klassRefAt index).map some
    else pool.klassRefAtIfLoaded index) = x at hf ⊢
  rcases x with e | _ | resolvedKlass
  · cases hf
  · cases hf
  refine ⟨resolvedKlass, rfl, ?_⟩
  simp only [Except.mapError] at hf
  split at hf; swap; · cases hf
  rename_i hfd
  split at hf; · cases hf
  rename_i hacc
  split at hf; · cases hf
  rename_i hstatic
  split at hf; · cases hf
  rename_i hfinal
  cases hf
  refine ⟨hfd, hacc, Eq.symm (by simpa using hstatic), fun hput hfin => ?_⟩
  simpa [hput, hfin] using hfinal

theorem resolveField_eq_ok {pool : ConstantPool} {index : Nat} {byte : Bytecode}
    {checkOnly updatePool : Bool} {s s' : σ} {info : FieldAccessInfo}
    (hf : resolveField rt pool index byte checkOnly updatePool s = .ok info s') :
    ∃ selKlass fd, findAndCheckField rt pool index byte updatePool = .ok (selKlass, fd) ∧
      (if (byte == .getstatic || byte == .putstatic) && !checkOnly then
        rt.initializeKlass selKlass s = .ok () s' else s' = s) ∧
      checkFieldLoaderConstraints rt pool.poolHolder selKlass (pool.signatureRefAt index) =
        .ok () ∧
      info = FieldAccessInfo.set selKlass fd := by
  obtain ⟨⟨selKlass, fd⟩, s₁, hlift, hf⟩ := eStateM_bind_eq_ok.mp hf
  obtain ⟨hfc, rfl⟩ := liftExcept_eq_ok.mp hlift
  obtain ⟨_, s₂, hinit, hf⟩ := eStateM_bind_eq_ok.mp hf
  obtain ⟨_, s₃, hlift, hf⟩ := eStateM_bind_eq_ok.mp hf
  obtain ⟨hc, rfl⟩ := liftExcept_eq_ok.mp hlift
  obtain ⟨rfl, rfl⟩ := eStateM_pure_eq_ok.mp hf
  refine ⟨selKlass, fd, hfc, ?_, hc, rfl⟩
  split at hinit
  · rw [if_pos ‹_›]
    exact liftThrowable_eq_ok.mp hinit
  · rw [if_neg ‹_›]
    exact (eStateM_pure_eq_ok.mp hinit).2.symm

/-! ## Access checks -/

/-- **Access checks.** Every method `resolve_method` resolves with access checking, and every
field `resolve_field` resolves, passed the access checker. -/
theorem resolved_member_passes_access_check (rt : Runtime h σ) :
    (∀ resolvedKlass name signature currentKlass m,
      resolveMethod rt resolvedKlass name signature currentKlass true = .ok m →
        rt.verifyFieldAccess currentKlass resolvedKlass m.holder
          (accessabilityFlags h resolvedKlass m.holder m) true = true) ∧
    (∀ pool index byte checkOnly updatePool (s s' : σ) info,
      resolveField rt pool index byte checkOnly updatePool s = .ok info s' →
        ∃ resolvedKlass fd,
          (if updatePool then (pool.klassRefAt index).map some
            else pool.klassRefAtIfLoaded index) = .ok (some resolvedKlass) ∧
          h.findField resolvedKlass (pool.nameRefAt index) (pool.signatureRefAt index) =
            some (info.klass, fd) ∧
          rt.verifyFieldAccess pool.poolHolder resolvedKlass info.klass fd.flags true = true) := by
  refine ⟨fun _ _ _ _ _ hm => ?_, fun _ _ _ _ _ _ _ _ hf => ?_⟩
  · exact checkMethodAccessability_eq_ok.mp ((resolveMethod_eq_ok hm).2.2.2 rfl).1
  · obtain ⟨selKlass, fd, hfc, -, -, rfl⟩ := resolveField_eq_ok hf
    obtain ⟨resolvedKlass, hk, hfd, hacc, -⟩ := findAndCheckField_eq_ok hfc
    exact ⟨resolvedKlass, fd, hk, hfd, checkFieldAccessability_eq_ok.mp hacc⟩

def objectClone : Method :=
  { holder := 0, name := "clone", signature := "()Ljava/lang/Object;",
    flags := { isProtected := true } }

/-- `Object` declaring the protected `clone`, `MethodHandle`, an interface `I` of package `p`, and a class
`C` of package `q` that does not implement `I`. -/
def cloneKlasses : List Klass :=
  [{ super := none, packageName := "java/lang", methods := [objectClone] },
   { super := some 0, isAbstract := true, packageName := "java/lang/invoke" },
   { super := some 0, isInterface := true, isAbstract := true, packageName := "p" },
   { super := some 0, packageName := "q" }]

def cloneHierarchy : Hierarchy := Hierarchy.ofArena cloneKlasses 0 1 (by decide)

/-- `C` resolving `I.clone()` gets the protected `Object.clone`, which §4.3 refuses to `C`. -/
theorem interfaceMethod_skips_access_check :
    resolveInterfaceMethod (Runtime.ofSpec cloneHierarchy Unit) 2 "clone" "()Ljava/lang/Object;"
        3 true = .ok objectClone ∧
      Reflection.verifyFieldAccess cloneHierarchy 3 2 0
        (accessabilityFlags cloneHierarchy 2 0 objectClone) true = false :=
  ⟨rfl, rfl⟩

/-! ## Initialization before loader constraints -/

def staticField : FieldInfo :=
  { name := "f", signature := "LFoo;", flags := { isPublic := true, isStatic := true },
    index := 0, offset := 0 }

/-- `Object`, `MethodHandle`, a class `A` of loader 2 declaring `public static Foo f`, and a
class `B` of loader 1. -/
def staticFieldKlasses : List Klass :=
  [{ super := none },
   { super := some 0, isAbstract := true },
   { super := some 0, classLoader := 2, fields := [staticField] },
   { super := some 0, classLoader := 1 }]

def staticFieldHierarchy : Hierarchy := Hierarchy.ofArena staticFieldKlasses 0 1 (by decide)

/-- The VM state is the list of initialized classes. The loaders 1 and 2 define `Foo`
differently. -/
def initializingRuntime : Runtime staticFieldHierarchy (List KlassId) :=
  { Runtime.ofSpecSeparateLoaders staticFieldHierarchy (List KlassId) with
    shouldBeInitialized := fun k initialized => !initialized.contains k
    initializeKlass := fun k => modify fun initialized =>
      if initialized.contains k then initialized else k :: initialized }

def fieldRefFromB : ConstantPool where
  poolHolder := 3
  klassRefAt _ := .ok 2
  klassRefAtIfLoaded _ := .ok (some 2)
  nameRefAt _ := "f"
  signatureRefAt _ := "LFoo;"

/-- `getstatic A.f` from `B`: the resolution ends in a loader-constraint `LinkageError`, after
it initialized `A`. -/
theorem fieldResolution_initializes_before_loader_check :
    resolveField initializingRuntime fieldRefFromB 0 .getstatic false true [] =
      .error (Failure.throw VmSymbols.javaLangLinkageError) [2] :=
  rfl

end LinkResolver

end HotspotLinking
