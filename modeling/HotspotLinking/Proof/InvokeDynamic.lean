import HotspotLinking.InvokeDynamic
import HotspotLinking.Proof.Calls

/-!
# Linking invokedynamic

`resolve_dynamic_call` runs the bootstrap method through its collaborator and translates what
it throws: an exception that is already a `BootstrapMethodError` passes, and so does one that
is no `LinkageError`; a `LinkageError` is wrapped in a `BootstrapMethodError`. The first test
is what keeps the translation from wrapping its own output, since `BootstrapMethodError` is
itself a `LinkageError`.

`resolve_invokedynamic` reads the call site's f1 twice, and the reads may see different
values when a publisher binds the site in between. Every configuration a thread can reach is
one of `Trace`: the site only goes from unbound to bound, so a thread whose first read saw it
bound sees it bound again and never reaches `resolve_dynamic_call`, and a thread that reaches
it holds the specifier its own `resolve_bootstrap_specifier_at` returned. A thread whose first
read saw the site unbound has resolved the bootstrap specifier by the time its second read
finds the site bound: reading the site bound spares a thread the run of the bootstrap method,
not the resolution of its specifier.
-/

namespace HotspotLinking

theorem Throwable.withCause_ne (klass : Symbol) (e : Throwable) :
    Throwable.withCause klass e ≠ e := fun heq => by
  have := congrArg (·.causes.length) heq
  simp [Throwable.withCause] at this

namespace LinkResolver

variable {σ : Type} {h : Hierarchy}

open VmSymbols

/-! ## Exceptions of the bootstrap method -/

theorem bootstrapFailure_eq_self_or_withCause (rt : Runtime h σ) (e : Throwable) :
    bootstrapFailure rt e = e ∨
      bootstrapFailure rt e = Throwable.withCause javaLangBootstrapMethodError e := by
  unfold bootstrapFailure
  split_ifs <;> simp

theorem bootstrapFailure_eq_withCause_iff (rt : Runtime h σ) (e : Throwable) :
    bootstrapFailure rt e = Throwable.withCause javaLangBootstrapMethodError e ↔
      rt.throwableIsA e.klass javaLangLinkageError = true ∧
        rt.throwableIsA e.klass javaLangBootstrapMethodError = false := by
  cases hb : rt.throwableIsA e.klass javaLangBootstrapMethodError <;>
    cases hl : rt.throwableIsA e.klass javaLangLinkageError <;>
    simp [bootstrapFailure, hb, hl, Ne.symm (Throwable.withCause_ne _ e)]

theorem bootstrapFailure_bootstrapFailure (rt : Runtime h σ)
    (hbme : rt.throwableIsA javaLangBootstrapMethodError javaLangBootstrapMethodError = true)
    (e : Throwable) : bootstrapFailure rt (bootstrapFailure rt e) = bootstrapFailure rt e := by
  rcases bootstrapFailure_eq_self_or_withCause rt e with he | he <;> rw [he]
  · exact he
  · simp [bootstrapFailure, Throwable.withCause, hbme]

/-- **Bootstrap errors.** The bootstrap method's exception comes out translated exactly once;
a returned invoker is linked as a handle call, or `InternalError` when there is none. -/
theorem dynamicCall_bootstrap_outcome (rt : Runtime h σ)
    (hbme : rt.throwableIsA javaLangBootstrapMethodError javaLangBootstrapMethodError = true)
    (bootstrapSpecifier : Option Oop) (methodName methodSignature : Symbol)
    (currentKlass : KlassId) (s : σ) :
    (∀ e s', rt.findDynamicCallSiteInvoker currentKlass bootstrapSpecifier methodName
        methodSignature s = .error e s' →
      resolveDynamicCall rt bootstrapSpecifier methodName methodSignature currentKlass s =
          .error (.thrown (bootstrapFailure rt e)) s' ∧
        (bootstrapFailure rt e = Throwable.withCause javaLangBootstrapMethodError e ↔
          rt.throwableIsA e.klass javaLangLinkageError = true ∧
            rt.throwableIsA e.klass javaLangBootstrapMethodError = false) ∧
        (¬ (rt.throwableIsA e.klass javaLangLinkageError = true ∧
            rt.throwableIsA e.klass javaLangBootstrapMethodError = false) →
          bootstrapFailure rt e = e) ∧
        bootstrapFailure rt (bootstrapFailure rt e) = bootstrapFailure rt e) ∧
    (∀ resolvedAppendix resolvedMethodType s',
      rt.findDynamicCallSiteInvoker currentKlass bootstrapSpecifier methodName methodSignature
          s = .ok (none, resolvedAppendix, resolvedMethodType) s' →
        resolveDynamicCall rt bootstrapSpecifier methodName methodSignature currentKlass s =
          .error (Failure.throw javaLangInternalError) s') ∧
    (∀ m resolvedAppendix resolvedMethodType s',
      rt.findDynamicCallSiteInvoker currentKlass bootstrapSpecifier methodName methodSignature
          s = .ok (some m, resolvedAppendix, resolvedMethodType) s' →
        resolveDynamicCall rt bootstrapSpecifier methodName methodSignature currentKlass s =
          .ok { CallInfo.setCommon h.methodHandleKlass h.methodHandleKlass m m
                  nonvirtualVtableIndex with resolvedAppendix, resolvedMethodType } s') := by
  refine ⟨fun e s' hinvoke => ⟨?_, bootstrapFailure_eq_withCause_iff rt e,
      fun hnot => (bootstrapFailure_eq_self_or_withCause rt e).resolve_right
        (mt (bootstrapFailure_eq_withCause_iff rt e).mp hnot),
      bootstrapFailure_bootstrapFailure rt hbme e⟩,
    fun _ _ s' hinvoke => ?_, fun _ _ _ s' hinvoke => ?_⟩ <;>
  simp only [resolveDynamicCall, hinvoke] <;> rfl

/-! A bootstrap method that throws: the errors of `java.lang` and the class hierarchy
`oopDesc::is_a` walks for them. -/

def javaLangErrorSupers : Symbol → List Symbol
  | "java/lang/BootstrapMethodError" | "java/lang/IncompatibleClassChangeError" =>
    ["java/lang/LinkageError", "java/lang/Error", "java/lang/Throwable"]
  | "java/lang/LinkageError" | "java/lang/VirtualMachineError" =>
    ["java/lang/Error", "java/lang/Throwable"]
  | _ => ["java/lang/Throwable"]

def javaLangIsA (klass super : Symbol) : Bool :=
  klass == super || (javaLangErrorSupers klass).contains super

def callSiteKlasses : List Klass :=
  [{ super := none }, { super := some 0, isAbstract := true }, { super := some 0 }]

def callSiteHierarchy : Hierarchy := Hierarchy.ofArena callSiteKlasses 0 1 (by decide)

/-- A bootstrap method that throws `IncompatibleClassChangeError`. -/
def incompatibleBootstrapRuntime : Runtime callSiteHierarchy Unit :=
  { Runtime.ofSpec callSiteHierarchy Unit with
    throwableIsA := javaLangIsA
    findDynamicCallSiteInvoker := fun _ _ _ _ => throw ⟨javaLangIncompatibleClassChangeError, []⟩ }

/-- An `IncompatibleClassChangeError` of the bootstrap method, a `LinkageError`, makes the call
site fail with a `BootstrapMethodError` caused by it, which the translation leaves alone. -/
theorem incompatibleBootstrap_wrapped_once :
    resolveDynamicCall incompatibleBootstrapRuntime none "run" "()V" 2 () =
        .error (.thrown ⟨javaLangBootstrapMethodError, [javaLangIncompatibleClassChangeError]⟩)
          () ∧
      bootstrapFailure incompatibleBootstrapRuntime
          ⟨javaLangBootstrapMethodError, [javaLangIncompatibleClassChangeError]⟩ =
        ⟨javaLangBootstrapMethodError, [javaLangIncompatibleClassChangeError]⟩ := by
  obtain ⟨hthrows, -, -⟩ :=
    dynamicCall_bootstrap_outcome incompatibleBootstrapRuntime (by decide) none "run" "()V" 2 ()
  obtain ⟨hcall, hwrap, -, hagain⟩ := hthrows ⟨javaLangIncompatibleClassChangeError, []⟩ () rfl
  have hwrapped : bootstrapFailure incompatibleBootstrapRuntime
      ⟨javaLangIncompatibleClassChangeError, []⟩ =
        ⟨javaLangBootstrapMethodError, [javaLangIncompatibleClassChangeError]⟩ :=
    hwrap.mpr ⟨by decide, by decide⟩
  rw [hwrapped] at hcall hagain
  exact ⟨hcall, hagain⟩

end LinkResolver

namespace InvokeDynamic

open LinkResolver

variable {h : Hierarchy} {σ : Type}

/-! ## The configurations of a thread -/

/-- Where a thread of `resolve_invokedynamic` can be, with the events it has logged, given
the call site's entry. The configurations that have read the site bound index it bound. -/
inductive Trace (h : Hierarchy) : Option Published → Pc → List Event → Prop
  | start {entry} : Trace h entry .start []
  | unboundFirst {entry} : Trace h entry .resolveSpecifier [.firstRead false]
  | boundFirst (p : Published) : Trace h (some p) (.secondRead none) [.firstRead true]
  | resolved {entry} (bsmInfo : Oop) :
      Trace h entry (.secondRead (some bsmInfo)) [.firstRead false, .resolveSpecifier (some bsmInfo)]
  | unboundSecond {entry} (bsmInfo : Oop) :
      Trace h entry (.dynamicCall (some bsmInfo))
        [.firstRead false, .resolveSpecifier (some bsmInfo), .secondRead false]
  | specifierThrew {entry} (e : Throwable) :
      Trace h entry (.returned (.error (.thrown e))) [.firstRead false, .resolveSpecifier none]
  | handleFirst (p : Published) :
      Trace h (some p) (.returned (CallInfo.setHandle h (some p.method) p.appendix p.methodType))
        [.firstRead true, .secondRead true]
  | handleSecond (p : Published) (bsmInfo : Oop) :
      Trace h (some p) (.returned (CallInfo.setHandle h (some p.method) p.appendix p.methodType))
        [.firstRead false, .resolveSpecifier (some bsmInfo), .secondRead true]
  | bootstrapped {entry} (result : Except Failure CallInfo) (bsmInfo : Oop) :
      Trace h entry (.returned result)
        [.firstRead false, .resolveSpecifier (some bsmInfo), .secondRead false,
          .dynamicCall (some bsmInfo)]

variable {entry : Option Published} {pc : Pc} {evs : List Event}

theorem Trace.move {c : CallSite h σ} {vm vm' : σ} {e : Event} {pc' : Pc}
    (ht : Trace h entry pc evs) (hmove : move c entry vm pc = some (e, pc', vm')) :
    Trace h entry pc' (evs ++ [e]) := by
  cases ht with
  | start => cases entry <;> cases hmove <;> constructor
  | unboundFirst =>
    simp only [InvokeDynamic.move] at hmove
    split at hmove <;> cases hmove
    · exact .resolved _
    · exact .specifierThrew _
  | boundFirst p => cases hmove; exact .handleFirst p
  | resolved bsmInfo =>
    cases entry <;> cases hmove
    · exact .unboundSecond bsmInfo
    · exact .handleSecond _ bsmInfo
  | unboundSecond bsmInfo =>
    simp only [InvokeDynamic.move] at hmove
    split at hmove <;> cases hmove <;> exact .bootstrapped _ bsmInfo
  | specifierThrew | handleFirst | handleSecond | bootstrapped => cases hmove

theorem Trace.publish {p : Published} (ht : Trace h none pc evs) : Trace h (some p) pc evs := by
  cases ht <;> constructor

theorem Trace.dynamicCall_mem {bootstrapSpecifier : Option Oop} (ht : Trace h entry pc evs)
    (hmem : Event.dynamicCall bootstrapSpecifier ∈ evs) :
    ∃ bsmInfo, bootstrapSpecifier = some bsmInfo ∧
      evs = [.firstRead false, .resolveSpecifier (some bsmInfo), .secondRead false,
        .dynamicCall (some bsmInfo)] := by
  cases ht <;> simp at hmem
  subst hmem
  exact ⟨_, rfl, rfl⟩

theorem Trace.secondRead_bound (ht : Trace h entry pc evs) (hmem : Event.secondRead true ∈ evs) :
    (∀ bootstrapSpecifier, Event.dynamicCall bootstrapSpecifier ∉ evs) ∧
      (∃ p, entry = some p ∧
        pc = .returned (CallInfo.setHandle h (some p.method) p.appendix p.methodType)) ∧
      (Event.firstRead false ∈ evs →
        ∃ bsmInfo, evs = [.firstRead false, .resolveSpecifier (some bsmInfo), .secondRead true]) := by
  cases ht <;> simp at hmem ⊢

theorem Trace.firstRead_bound (ht : Trace h entry pc evs) (hmem : Event.firstRead true ∈ evs) :
    (∀ r, Event.resolveSpecifier r ∉ evs) ∧ ∀ bootstrapSpecifier,
      Event.dynamicCall bootstrapSpecifier ∉ evs := by
  cases ht <;> simp at hmem ⊢

theorem Trace.firstRead_bound_of_returned {result : Except Failure CallInfo}
    (ht : Trace h entry (.returned result) evs) (hnone : ∀ r, Event.resolveSpecifier r ∉ evs) :
    Event.firstRead true ∈ evs := by
  cases ht <;> simp at hnone ⊢

/-! ## Every interleaving -/

variable {τ : Type} [DecidableEq τ]

def Inv (h : Hierarchy) (s : State τ σ) : Prop :=
  ∀ t, Trace h s.entry (s.pc t) (s.events t)

theorem inv_initial (entry : Option Published) (vm : σ) : Inv h (initial entry vm : State τ σ) :=
  fun _ => .start

theorem Inv.threadStep {c : CallSite h σ} {s s' : State τ σ} {t : τ} (hinv : Inv h s)
    (hstep : threadStep c s t = some s') : Inv h s' := by
  obtain ⟨⟨e, p, vm⟩, hmove, rfl⟩ := Option.map_eq_some'.mp hstep
  intro u
  by_cases hu : u = t
  · subst hu
    simpa using (hinv u).move hmove
  · simpa [State.record_pc_of_ne hu, State.events_record_of_ne hu] using hinv u

theorem Inv.publish {s s' : State τ σ} {p : Published} (hinv : Inv h s)
    (hstep : publish s p = some s') : Inv h s' := by
  obtain ⟨hentry, rfl⟩ := publish_eq_some.mp hstep
  exact fun u => (hentry ▸ hinv u).publish

theorem inv_of_reachable {c : CallSite h σ} {entry : Option Published} {vm : σ}
    {s : State τ σ} (hs : Reachable c entry vm s) : Inv h s := by
  induction hs with
  | refl => exact inv_initial entry vm
  | tail _ hstep ih =>
    obtain ⟨a, hstep⟩ := hstep
    cases a with
    | thread t => exact ih.threadStep hstep
    | publish p => exact ih.publish hstep

/-- **Racing on a call site.** In every interleaving with a once-bound site, which thread
resolves the specifier, runs the bootstrap method, or returns the published handle is fixed by
what its two reads of f1 saw. -/
theorem callSite_race_outcomes {c : CallSite h σ} {entry : Option Published} {vm : σ}
    {s : State τ σ} (hs : Reachable c entry vm s) (t : τ) :
    (∀ bootstrapSpecifier, Event.dynamicCall bootstrapSpecifier ∈ s.events t →
      ∃ bsmInfo, bootstrapSpecifier = some bsmInfo ∧
        s.events t = [.firstRead false, .resolveSpecifier (some bsmInfo), .secondRead false,
          .dynamicCall (some bsmInfo)]) ∧
    (Event.secondRead true ∈ s.events t →
      (∀ bootstrapSpecifier, Event.dynamicCall bootstrapSpecifier ∉ s.events t) ∧
        (∃ p, s.entry = some p ∧
          s.pc t = .returned (.ok { CallInfo.setCommon h.methodHandleKlass h.methodHandleKlass
            p.method p.method nonvirtualVtableIndex with
              resolvedAppendix := p.appendix, resolvedMethodType := p.methodType })) ∧
        (Event.firstRead false ∈ s.events t → ∃ bsmInfo,
          s.events t = [.firstRead false, .resolveSpecifier (some bsmInfo), .secondRead true])) ∧
    (Event.firstRead true ∈ s.events t →
      (∀ r, Event.resolveSpecifier r ∉ s.events t) ∧
        ∀ bootstrapSpecifier, Event.dynamicCall bootstrapSpecifier ∉ s.events t) ∧
    (∀ result, s.pc t = .returned result → (∀ r, Event.resolveSpecifier r ∉ s.events t) →
      Event.firstRead true ∈ s.events t) := by
  have ht := inv_of_reachable hs t
  refine ⟨fun _ => ht.dynamicCall_mem, ht.secondRead_bound, ht.firstRead_bound,
    fun result hret => ?_⟩
  rw [hret] at ht
  exact ht.firstRead_bound_of_returned

/-! ## A race on one call site -/

def linkToCallSite : Method :=
  { holder := 1, name := "linkToCallSite", signature := "(Ljava/lang/Object;)V",
    flags := { isStatic := true, isFinal := true } }

def raceEntry : Published :=
  { method := linkToCallSite, appendix := some 8, methodType := some 9 }

/-- A call site `run()V` in `C` whose bootstrap specifier resolves to the oop 7 and whose
bootstrap method returns the triple of `raceEntry`. -/
def raceSite : CallSite callSiteHierarchy Unit where
  rt := { Runtime.ofSpec callSiteHierarchy Unit with
    findDynamicCallSiteInvoker := fun _ _ _ _ =>
      pure (some raceEntry.method, raceEntry.appendix, raceEntry.methodType) }
  poolHolder := 2
  methodName := "run"
  methodSignature := "()V"
  resolveBootstrapSpecifierAt := pure 7

/-- Thread `false` reads f1 unbound and resolves the specifier; thread `true` runs the unbound
path; a publisher binds the site; thread `false` reads f1 again. -/
def raceSchedule : List (Action Bool) :=
  [.thread false, .thread false, .thread true, .thread true, .thread true, .thread true,
   .publish raceEntry, .thread false]

def raceFinal : State Bool Unit :=
  (run raceSite (initial none ()) raceSchedule).getD (initial none ())

theorem raceFinal_reachable : Reachable raceSite none () raceFinal :=
  reachable_of_run .refl raceSchedule rfl

/-- Thread `false` read the site bound the second time and returns the published handle;
thread `true` ran the bootstrap method with the specifier it resolved. -/
theorem raceFinal_late_reader_returns_handle :
    (∃ p, raceFinal.entry = some p ∧
      raceFinal.pc false = .returned (.ok { CallInfo.setCommon callSiteHierarchy.methodHandleKlass
        callSiteHierarchy.methodHandleKlass p.method p.method nonvirtualVtableIndex with
          resolvedAppendix := p.appendix, resolvedMethodType := p.methodType })) ∧
      (∃ bsmInfo, raceFinal.events false =
        [.firstRead false, .resolveSpecifier (some bsmInfo), .secondRead true]) ∧
      ∃ bsmInfo, some 7 = some bsmInfo ∧ raceFinal.events true =
        [.firstRead false, .resolveSpecifier (some bsmInfo), .secondRead false,
          .dynamicCall (some bsmInfo)] := by
  obtain ⟨hcall, -, -, -⟩ := callSite_race_outcomes raceFinal_reachable true
  obtain ⟨-, hhandle, hresolved⟩ :=
    (callSite_race_outcomes raceFinal_reachable false).2.1 (by decide)
  exact ⟨hhandle, hresolved (by decide), hcall (some 7) (by decide)⟩

/-- Thread `false` read the site bound and returns the published handle, and it resolved the
bootstrap specifier before. -/
theorem raceFinal_bound_reader_resolved_specifier :
    Reachable raceSite none () raceFinal ∧ Event.secondRead true ∈ raceFinal.events false ∧
      Event.resolveSpecifier (some 7) ∈ raceFinal.events false ∧
      raceFinal.pc false = .returned (CallInfo.setHandle callSiteHierarchy
        (some raceEntry.method) raceEntry.appendix raceEntry.methodType) :=
  ⟨raceFinal_reachable, by decide, by decide, rfl⟩

end InvokeDynamic

end HotspotLinking
