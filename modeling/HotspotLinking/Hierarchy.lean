import HotspotLinking.Oops

/-!
# The Type Registry

A hierarchy is the table of loaded klasses, with the facts every loaded hierarchy has: no
class is its own ancestor (a rank drops along every superclass and superinterface edge),
`java.lang.Object` is the one klass with no superclass and implements nothing, interfaces
are what `transitive_interfaces` lists, and a method's holder is the klass declaring it.
A klass declares at most one method with a given name and signature. Array klasses declare
no methods and extend an array klass or `Object`; the VM gives the
signature-polymorphic intrinsic ids only to methods of `java.lang.invoke.MethodHandle`.

The registry's own searches (`uncached_lookup_method`, `find_field`, `index_of_miranda`, ...)
live in files that are not under src/; they are modelled here from §4.1 and §4.2 of the spec.
Recursion along chains runs on a fuel of `rank k + 1`, which is always enough: the equation
lemmas below (`superChain_eq`, ...) are what the rest of the development uses.
-/

namespace HotspotLinking

structure Hierarchy where
  klass : KlassId → Klass
  objectKlass : KlassId
  methodHandleKlass : KlassId
  rank : KlassId → Nat
  rank_super : ∀ k s, (klass k).super = some s → rank s < rank k
  rank_localInterface : ∀ k i, i ∈ (klass k).localInterfaces → rank i < rank k
  super_eq_none_iff : ∀ k, (klass k).super = none ↔ k = objectKlass
  object_transitiveInterfaces : (klass objectKlass).transitiveInterfaces = []
  isInterface_of_mem_transitiveInterfaces :
    ∀ k i, i ∈ (klass k).transitiveInterfaces → (klass i).isInterface = true
  holder_of_mem_methods : ∀ k m, m ∈ (klass k).methods → m.holder = k
  /-- No two methods of a class file share a name and a signature (JVMS 4.6). -/
  methods_nodup : ∀ k, ((klass k).methods.map fun m => (m.name, m.signature)).Nodup
  methods_of_isArray : ∀ k, (klass k).isArray = true → (klass k).methods = []
  super_of_isArray : ∀ k s, (klass k).isArray = true → (klass k).super = some s →
    (klass s).isArray = true ∨ s = objectKlass
  mem_methodHandle_of_signaturePolymorphic : ∀ k m, m ∈ (klass k).methods →
    m.intrinsicId.isSignaturePolymorphic = true → k = methodHandleKlass
  methodHandle_ne_object : methodHandleKlass ≠ objectKlass

namespace Hierarchy

variable (h : Hierarchy)

/-! ## Superclass chains -/

/-- At most `fuel` klasses of the superclass chain starting at `k`. -/
def supersUpTo : Nat → KlassId → List KlassId
  | 0, _ => []
  | fuel + 1, k => k :: match (h.klass k).super with
    | none => []
    | some s => supersUpTo fuel s

/-- The superclass chain from `k` up to `java.lang.Object`. -/
def superChain (k : KlassId) : List KlassId := h.supersUpTo (h.rank k + 1) k

/-- `Klass::is_subtype_of`: `d` is on `k`'s superclass chain or among its interfaces. -/
def isSubtypeOf (k d : KlassId) : Bool :=
  (h.superChain k).contains d || (h.klass k).transitiveInterfaces.contains d

variable {h}

theorem supersUpTo_congr {n m k : Nat} (hn : h.rank k < n) (hm : h.rank k < m) :
    h.supersUpTo n k = h.supersUpTo m k := by
  induction n generalizing m k with
  | zero => omega
  | succ n ih =>
    obtain ⟨m, rfl⟩ : ∃ m', m = m' + 1 := ⟨m - 1, by omega⟩
    simp only [supersUpTo]
    congr 1
    cases hs : (h.klass k).super with
    | none => rfl
    | some s =>
      have := h.rank_super k s hs
      exact ih (by omega) (by omega)

theorem superChain_eq (k : KlassId) :
    h.superChain k = k :: match (h.klass k).super with
      | none => []
      | some s => h.superChain s := by
  unfold superChain
  simp only [supersUpTo]
  congr 1
  cases hs : (h.klass k).super with
  | none => rfl
  | some s =>
    have := h.rank_super k s hs
    exact supersUpTo_congr (n := h.rank k) (m := h.rank s + 1) (by omega) (by omega)

theorem superChain_of_super {k s : KlassId} (hs : (h.klass k).super = some s) :
    h.superChain k = k :: h.superChain s := by
  rw [superChain_eq, hs]

theorem superChain_of_root {k : KlassId} (hs : (h.klass k).super = none) :
    h.superChain k = [k] := by
  rw [superChain_eq, hs]

@[simp]
theorem mem_superChain_self (k : KlassId) : k ∈ h.superChain k := by
  rw [superChain_eq]
  exact List.mem_cons_self _ _

theorem superChain_induction {motive : KlassId → Prop}
    (root : ∀ k, (h.klass k).super = none → motive k)
    (step : ∀ k s, (h.klass k).super = some s → motive s → motive k) (k : KlassId) :
    motive k := by
  obtain ⟨r, hr⟩ : ∃ r, h.rank k = r := ⟨_, rfl⟩
  induction r using Nat.strong_induction_on generalizing k with
  | _ r ih =>
    cases hs : (h.klass k).super with
    | none => exact root k hs
    | some s => exact step k s hs (ih _ (hr ▸ h.rank_super k s hs) s rfl)

theorem superChain_suffix {k d : KlassId} (hd : d ∈ h.superChain k) :
    h.superChain d <:+ h.superChain k := by
  induction k using superChain_induction with
  | root k hs =>
    rw [superChain_of_root hs, List.mem_singleton] at hd
    subst hd
    exact List.suffix_refl _
  | step k s hs ih =>
    rw [superChain_of_super hs, List.mem_cons] at hd
    rcases hd with rfl | hd
    · exact List.suffix_refl _
    · rw [superChain_of_super hs]
      exact (ih hd).trans (List.suffix_cons _ _)

theorem superChain_trans {k d e : KlassId} (hd : d ∈ h.superChain k)
    (he : e ∈ h.superChain d) : e ∈ h.superChain k :=
  (superChain_suffix hd).subset he

theorem rank_le_of_mem_superChain {k d : KlassId} (hd : d ∈ h.superChain k) :
    h.rank d ≤ h.rank k := by
  induction k using superChain_induction with
  | root k hs =>
    rw [superChain_of_root hs, List.mem_singleton] at hd
    rw [hd]
  | step k s hs ih =>
    rw [superChain_of_super hs, List.mem_cons] at hd
    rcases hd with rfl | hd
    · exact le_rfl
    · exact (ih hd).trans (h.rank_super k s hs).le

theorem mem_superChain_of_super {k s d : KlassId} (hs : (h.klass k).super = some s) :
    d ∈ h.superChain k ↔ d = k ∨ d ∈ h.superChain s := by
  rw [superChain_of_super hs, List.mem_cons]

theorem isSubtypeOf_iff {k d : KlassId} :
    h.isSubtypeOf k d = true ↔ d ∈ h.superChain k ∨ d ∈ (h.klass k).transitiveInterfaces := by
  simp [isSubtypeOf]

theorem mem_superChain_of_isSubtypeOf {k d : KlassId} (hsub : h.isSubtypeOf k d = true)
    (hd : (h.klass d).isInterface = false) : d ∈ h.superChain k := by
  rcases isSubtypeOf_iff.mp hsub with hd' | hd'
  · exact hd'
  · have := h.isInterface_of_mem_transitiveInterfaces k d hd'
    rw [hd] at this
    exact absurd this Bool.false_ne_true

theorem isArray_or_object_of_mem_superChain {k d : KlassId} (hk : (h.klass k).isArray = true)
    (hd : d ∈ h.superChain k) : (h.klass d).isArray = true ∨ d = h.objectKlass := by
  induction k using superChain_induction with
  | root k hs =>
    rw [superChain_of_root hs, List.mem_singleton] at hd
    exact .inl (hd ▸ hk)
  | step k s hs ih =>
    rcases (mem_superChain_of_super hs).mp hd with rfl | hd
    · exact .inl hk
    · rcases h.super_of_isArray k s hk hs with hs' | rfl
      · exact ih hs' hd
      · rw [superChain_of_root ((h.super_eq_none_iff _).mpr rfl), List.mem_singleton] at hd
        exact .inr hd

/-! ## Declared members -/

variable (h)

/-- `instanceKlass::find_method`: the method `k` itself declares with this name and
signature, static or not. -/
def findMethod (k : KlassId) (name signature : Symbol) : Option Method :=
  (h.klass k).methods.find? fun m => m.name == name && m.signature == signature

/-- Modelled from the spec: `instanceKlass::uncached_lookup_method` (not under src/), §4.1 (a):
the first klass up the superclass chain declaring the method, static methods included. -/
def uncachedLookupMethod (k : KlassId) (name signature : Symbol) : Option Method :=
  (h.superChain k).findSome? fun c => h.findMethod c name signature

/-- Modelled from the spec: `instanceKlass::lookup_method_in_all_interfaces` (not under
src/), §4.1 (b): the first transitive interface declaring the method. -/
def lookupMethodInAllInterfaces (k : KlassId) (name signature : Symbol) : Option Method :=
  (h.klass k).transitiveInterfaces.findSome? fun i => h.findMethod i name signature

variable {h}

theorem findMethod_eq_some {k : KlassId} {name signature : Symbol} {m : Method}
    (hm : h.findMethod k name signature = some m) :
    m ∈ (h.klass k).methods ∧ m.holder = k ∧ m.name = name ∧ m.signature = signature := by
  have hmem := List.mem_of_find?_eq_some hm
  have hp := List.find?_some hm
  simp only [Bool.and_eq_true, beq_iff_eq] at hp
  exact ⟨hmem, h.holder_of_mem_methods k m hmem, hp⟩

theorem uncachedLookupMethod_eq (k : KlassId) (name signature : Symbol) :
    h.uncachedLookupMethod k name signature =
      (h.findMethod k name signature).or (match (h.klass k).super with
        | none => none
        | some s => h.uncachedLookupMethod s name signature) := by
  unfold uncachedLookupMethod
  rw [superChain_eq, List.findSome?_cons]
  cases h.findMethod k name signature <;> cases (h.klass k).super <;> rfl

theorem uncachedLookupMethod_eq_some {k : KlassId} {name signature : Symbol} {m : Method}
    (hm : h.uncachedLookupMethod k name signature = some m) :
    ∃ above, h.superChain k = above ++ h.superChain m.holder ∧
      (∀ c ∈ above, h.findMethod c name signature = none) ∧
      h.findMethod m.holder name signature = some m := by
  induction k using superChain_induction with
  | root k hs =>
    rw [uncachedLookupMethod_eq, hs, Option.or_none] at hm
    obtain ⟨-, rfl, -⟩ := findMethod_eq_some hm
    exact ⟨[], rfl, by simp, hm⟩
  | step k s hs ih =>
    rw [uncachedLookupMethod_eq, hs] at hm
    cases hk : h.findMethod k name signature with
    | some m' =>
      rw [hk, Option.or_some] at hm
      cases hm
      obtain ⟨-, rfl, -⟩ := findMethod_eq_some hk
      exact ⟨[], rfl, by simp, hk⟩
    | none =>
      rw [hk, Option.none_or] at hm
      obtain ⟨above, habove, hnone, hfound⟩ := ih hm
      refine ⟨k :: above, ?_, ?_, hfound⟩
      · rw [superChain_of_super hs, habove, List.cons_append]
      · simpa [hk] using hnone

theorem uncachedLookupMethod_holder_mem {k : KlassId} {name signature : Symbol} {m : Method}
    (hm : h.uncachedLookupMethod k name signature = some m) : m.holder ∈ h.superChain k := by
  obtain ⟨above, habove, -, -⟩ := uncachedLookupMethod_eq_some hm
  rw [habove]
  exact List.mem_append_right _ (mem_superChain_self _)

theorem lookupMethodInAllInterfaces_eq_some {k : KlassId} {name signature : Symbol}
    {m : Method} (hm : h.lookupMethodInAllInterfaces k name signature = some m) :
    m.holder ∈ (h.klass k).transitiveInterfaces ∧ m ∈ (h.klass m.holder).methods ∧
      m.name = name ∧ m.signature = signature := by
  obtain ⟨i, hi, hfound⟩ := List.exists_of_findSome?_eq_some hm
  obtain ⟨hmem, rfl, hname⟩ := findMethod_eq_some hfound
  exact ⟨hi, hmem, hname⟩

/-! ## Fields -/

variable (h)

def findLocalField (k : KlassId) (name signature : Symbol) : Option FieldInfo :=
  (h.klass k).fields.find? fun fd => fd.name == name && fd.signature == signature

/-- `instanceKlass::find_interface_field`, its recursion bounded by `fuel`: each direct
superinterface's own field, else a field found among that interface's superinterfaces. -/
def findInterfaceFieldUpTo (name signature : Symbol) : Nat → KlassId → Option (KlassId × FieldInfo)
  | 0, _ => none
  | fuel + 1, k => (h.klass k).localInterfaces.findSome? fun i =>
    match h.findLocalField i name signature with
    | some fd => some (i, fd)
    | none => findInterfaceFieldUpTo name signature fuel i

def findFieldUpTo (name signature : Symbol) : Nat → KlassId → Option (KlassId × FieldInfo)
  | 0, _ => none
  | fuel + 1, k =>
    match h.findLocalField k name signature with
    | some fd => some (k, fd)
    | none =>
      match h.findInterfaceFieldUpTo name signature (h.rank k + 1) k with
      | some found => some found
      | none =>
        match (h.klass k).super with
        | none => none
        | some s => findFieldUpTo name signature fuel s

/-- Modelled from the spec: `instanceKlass::find_field` (not under src/), §4.1: own fields,
then direct superinterfaces recursively, then the superclass. -/
def findField (k : KlassId) (name signature : Symbol) : Option (KlassId × FieldInfo) :=
  h.findFieldUpTo name signature (h.rank k + 1) k

variable {h}

theorem findLocalField_eq_some {k : KlassId} {name signature : Symbol} {fd : FieldInfo}
    (hfd : h.findLocalField k name signature = some fd) :
    fd ∈ (h.klass k).fields ∧ fd.name = name ∧ fd.signature = signature := by
  have hp := List.find?_some hfd
  simp only [Bool.and_eq_true, beq_iff_eq] at hp
  exact ⟨List.mem_of_find?_eq_some hfd, hp⟩

theorem findInterfaceFieldUpTo_eq_some {name signature : Symbol} {fuel : Nat}
    {k d : KlassId} {fd : FieldInfo}
    (hfd : h.findInterfaceFieldUpTo name signature fuel k = some (d, fd)) :
    fd ∈ (h.klass d).fields ∧ fd.name = name ∧ fd.signature = signature := by
  induction fuel generalizing k with
  | zero => cases hfd
  | succ fuel ih =>
    obtain ⟨i, -, hi⟩ := List.exists_of_findSome?_eq_some hfd
    cases hlocal : h.findLocalField i name signature with
    | some fd' =>
      rw [hlocal] at hi
      cases hi
      exact findLocalField_eq_some hlocal
    | none =>
      rw [hlocal] at hi
      exact ih hi

/-! ## Vtables -/

variable (h)

def vtableLength (k : KlassId) : Nat := (h.klass k).vtable.length

/-- The entry of `k`'s vtable at `index`, when `index` names one of its slots. -/
def vtableAt (k : KlassId) (index : Int) : Option (Option Method) :=
  if 0 ≤ index then (h.klass k).vtable[index.toNat]? else none

/-- `instanceKlass::method_at_vtable`, an unchecked read. Outside `[0, vtable_length)` a product
build returns an unknown word; the model faults there, and no `CLEAR_PENDING_EXCEPTION` clears it. -/
def methodAtVtable (k : KlassId) (index : Int) : Except Failure (Option Method) :=
  match h.vtableAt k index with
  | some entry => .ok entry
  | none => .error (.vtableOutOfBounds index)

/-- `klassVtable::is_miranda_entry_at` together with `index_of_miranda`'s name and signature
test: an entry that an interface declares, with this name and signature. -/
def isMirandaEntryWith (name signature : Symbol) : Option Method → Bool
  | some m => (h.klass m.holder).isInterface && m.name == name && m.signature == signature
  | none => false

/-- The downward search of `index_of_miranda`, over the slots below `i`. -/
def indexOfMirandaBelow (vtable : List (Option Method)) (name signature : Symbol) : Nat → Int
  | 0 => invalidVtableIndex
  | i + 1 =>
    match vtable[i]? with
    | some entry =>
      if h.isMirandaEntryWith name signature entry then i
      else indexOfMirandaBelow vtable name signature i
    | none => indexOfMirandaBelow vtable name signature i

/-- Modelled from the spec: `klassVtable::index_of_miranda` (not under src/), §4.2: the lowest
slot holding an interface's method of this name and signature, or `invalid_vtable_index`. -/
def indexOfMiranda (k : KlassId) (name signature : Symbol) : Int :=
  h.indexOfMirandaBelow (h.klass k).vtable name signature (h.klass k).vtable.length

variable {h}

theorem vtableAt_eq_some {k : KlassId} {index : Int} {entry : Option Method}
    (he : h.vtableAt k index = some entry) :
    0 ≤ index ∧ index < h.vtableLength k := by
  unfold vtableAt at he
  split at he
  · have := (List.getElem?_eq_some_iff.mp he).1
    exact ⟨‹_›, by unfold vtableLength; omega⟩
  · cases he

theorem methodAtVtable_eq_ok {k : KlassId} {index : Int} {entry : Option Method}
    (he : h.methodAtVtable k index = .ok entry) : h.vtableAt k index = some entry := by
  unfold methodAtVtable at he
  split at he <;> cases he
  assumption

theorem indexOfMirandaBelow_spec (vtable : List (Option Method)) (name signature : Symbol)
    (i : Nat) :
    h.indexOfMirandaBelow vtable name signature i = invalidVtableIndex ∨
      ∃ j < i, h.indexOfMirandaBelow vtable name signature i = j ∧
        ∃ entry, vtable[j]? = some entry ∧ h.isMirandaEntryWith name signature entry := by
  induction i with
  | zero => exact .inl rfl
  | succ i ih =>
    simp only [indexOfMirandaBelow]
    split
    · split
      · exact .inr ⟨i, by omega, rfl, _, ‹_›, ‹_›⟩
      · rcases ih with ih | ⟨j, hj, ih⟩
        · exact .inl ih
        · exact .inr ⟨j, by omega, ih⟩
    · rcases ih with ih | ⟨j, hj, ih⟩
      · exact .inl ih
      · exact .inr ⟨j, by omega, ih⟩

theorem indexOfMiranda_spec (k : KlassId) (name signature : Symbol) :
    h.indexOfMiranda k name signature = invalidVtableIndex ∨
      ∃ m, h.vtableAt k (h.indexOfMiranda k name signature) = some (some m) ∧
        (h.klass m.holder).isInterface = true ∧ m.name = name ∧ m.signature = signature := by
  rcases indexOfMirandaBelow_spec (h := h) (h.klass k).vtable name signature
    (h.klass k).vtable.length with hinv | ⟨j, -, hj, entry, he, hm⟩
  · exact .inl hinv
  · right
    unfold indexOfMiranda
    rw [hj]
    cases entry with
    | none => simp [isMirandaEntryWith] at hm
    | some m =>
      simp only [isMirandaEntryWith, Bool.and_eq_true, beq_iff_eq] at hm
      refine ⟨m, ?_, hm.1.1, hm.1.2, hm.2⟩
      rw [vtableAt, if_pos (Int.ofNat_nonneg j)]
      simpa using he

end Hierarchy

end HotspotLinking
