import HotspotLinking.Arena
import HotspotLinking.Runtime

/-!
# Vtable layouts

The Type Registry lays out a klass's vtable when it links the klass; the resolver only reads
the tables (§9). The layout rules that results about dispatch rest on are stated here, each
over the whole hierarchy, together with a `Bool` check of each rule on a finite table, sound
for every hierarchy whose ids past the table are the default klasses of an arena.
-/

namespace HotspotLinking

namespace Hierarchy

variable (h : Hierarchy)

/-- A method's vtable index names a slot of its holder holding a method of its name and
signature, and each slot agrees on name and signature with the same slot of every superclass. -/
structure VtableSlotsMatch : Prop where
  slot_of_vtableIndex : ∀ k m, m ∈ (h.klass k).methods → 0 ≤ m.vtableIndex →
    ∃ e, h.vtableAt k m.vtableIndex = some (some e) ∧ e.name = m.name ∧
      e.signature = m.signature
  slot_of_super : ∀ k d, d ∈ h.superChain k → ∀ i e e',
    h.vtableAt d i = some (some e) → h.vtableAt k i = some (some e') →
      e'.name = e.name ∧ e'.signature = e.signature

/-- No vtable holds a static method. -/
def NoStaticInVtables : Prop :=
  ∀ k i m, h.vtableAt k i = some (some m) → m.flags.isStatic = false

/-- JVMS 5.4.5 (Java SE 7): `mk` overrides `md` when it is `md`, or has its name and signature
and `md` is public, protected, or package-private in `mk`'s runtime package. -/
def overrides (mk md : Method) : Bool :=
  mk == md || mk.name == md.name && mk.signature == md.signature &&
    (md.flags.isPublic || md.flags.isProtected ||
      !md.flags.isPrivate && Reflection.samePackage h mk.holder md.holder)

/-- An overriding method occupies the slot of the method it overrides, a slot no method of the
klass overrides is inherited, and no method overrides a final one (JVMS 4.10). -/
structure VtablesWellFormed : Prop where
  overrider_occupies : ∀ k d mk md, d ∈ h.superChain k → mk ∈ (h.klass k).methods →
    md ∈ (h.klass d).methods → mk.flags.isStatic = false → 0 ≤ md.vtableIndex →
    h.overrides mk md = true → h.vtableAt k md.vtableIndex = some (some mk)
  inherits : ∀ k s i e, (h.klass k).super = some s → h.vtableAt s i = some (some e) →
    (∀ mk ∈ (h.klass k).methods, mk.flags.isStatic = false → h.overrides mk e = false) →
    h.vtableAt k i = some (some e)
  final_not_overridden : ∀ k d mk md, d ∈ h.superChain k → mk ∈ (h.klass k).methods →
    md ∈ (h.klass d).methods → mk ≠ md → mk.flags.isStatic = false →
    md.flags.isFinal = true → h.overrides mk md = false

/-- The Type Registry's layout rules: vtables extend their superclass's, arrays share
`Object`'s, methods have a slot or none, and unimplemented interface methods a miranda slot. -/
structure VtableLayout : Prop where
  vtable_extends : ∀ k s, (h.klass k).super = some s →
    (h.klass s).vtable <+: (h.klass k).vtable
  array_vtable : ∀ k, (h.klass k).isArray = true →
    (h.klass k).vtable = (h.klass h.objectKlass).vtable
  vtableIndex_bound : ∀ k m, m ∈ (h.klass k).methods → (h.klass k).isInterface = false →
    m.flags.isStatic = false →
    m.vtableIndex = nonvirtualVtableIndex ∨ 0 ≤ m.vtableIndex ∧ m.vtableIndex < h.vtableLength k
  miranda_slot : ∀ k i m, (h.klass k).isInterface = false →
    i ∈ (h.klass k).transitiveInterfaces → m ∈ (h.klass i).methods →
    (∀ c ∈ h.superChain k, h.findMethod c m.name m.signature = none) →
    ∃ j e, h.vtableAt k j = some e ∧ h.isMirandaEntryWith m.name m.signature e = true

/-! ## Empty vtables -/

def VtablesEmpty : Prop := ∀ k, (h.klass k).vtable = []

def MethodsNonvirtual : Prop :=
  ∀ k m, m ∈ (h.klass k).methods → m.vtableIndex = nonvirtualVtableIndex

variable {h}

theorem VtableLayout.of_vtablesEmpty (he : h.VtablesEmpty) (hm : h.MethodsNonvirtual)
    (hdecl : ∀ k, ∀ i ∈ (h.klass k).transitiveInterfaces, ∀ m ∈ (h.klass i).methods,
      ∃ c ∈ h.superChain k, h.findMethod c m.name m.signature ≠ none) :
    h.VtableLayout where
  vtable_extends k s _ := by simp only [he k, he s, List.prefix_refl]
  array_vtable k _ := by rw [he k, he h.objectKlass]
  vtableIndex_bound k m hmem _ _ := .inl (hm k m hmem)
  miranda_slot k i m _ hi hmi hnone := by
    obtain ⟨c, hc, hfound⟩ := hdecl k i hi m hmi
    exact absurd (hnone c hc) hfound

/-! ## Checking the rules on a finite table -/

variable (h) in
/-- The klasses from `n` on are empty subclasses of `Object` with `Object`'s vtable, as the ids
past an arena's table are: each rule then needs checking below `n` only. -/
structure DefaultFrom (n : Nat) : Prop where
  object_lt : h.objectKlass < n
  super_eq : ∀ k, n ≤ k → (h.klass k).super = some h.objectKlass
  methods_eq : ∀ k, n ≤ k → (h.klass k).methods = []
  vtable_eq : ∀ k, n ≤ k → (h.klass k).vtable = (h.klass h.objectKlass).vtable

variable (h) in
/-- `VtableSlotsMatch` at `k`: the slots its methods name, and its slots against those of the
klasses on its chain. -/
def slotsMatchAt (k : KlassId) : Bool :=
  (h.klass k).methods.all (fun m => decide (m.vtableIndex < 0) ||
    (h.vtableAt k m.vtableIndex).join.any fun e =>
      e.name == m.name && e.signature == m.signature) &&
  (h.superChain k).all fun d => (List.range (h.vtableLength d)).all fun i =>
    (h.vtableAt d i).join.all fun e => (h.vtableAt k i).join.all fun e' =>
      e'.name == e.name && e'.signature == e.signature

variable (h) in
def noStaticAt (k : KlassId) : Bool :=
  (h.klass k).vtable.all fun entry => entry.all fun m => !m.flags.isStatic

variable (h) in
/-- `VtablesWellFormed` at `k`: its methods against those of the klasses on its chain, and the
slots it inherits. -/
def wellFormedAt (k : KlassId) : Bool :=
  ((h.superChain k).all fun d => (h.klass k).methods.all fun mk =>
    (h.klass d).methods.all fun md =>
      mk.flags.isStatic || !h.overrides mk md ||
        (decide (md.vtableIndex < 0) || decide (h.vtableAt k md.vtableIndex = some (some mk))) &&
          (decide (mk = md) || !md.flags.isFinal)) &&
  (h.klass k).super.all fun s => (List.range (h.vtableLength s)).all fun i =>
    (h.vtableAt s i).join.all fun e =>
      (h.klass k).methods.any (fun mk => !mk.flags.isStatic && h.overrides mk e) ||
        decide (h.vtableAt k i = some (some e))

variable {n : Nat}

theorem DefaultFrom.vtableAt_eq (hd : h.DefaultFrom n) {k : KlassId} (hk : n ≤ k) (i : Int) :
    h.vtableAt k i = h.vtableAt h.objectKlass i := by
  simp only [vtableAt, hd.vtable_eq k hk]

theorem DefaultFrom.vtableAt_of_mem_superChain (hd : h.DefaultFrom n) {k d : KlassId}
    (hk : n ≤ k) (hdk : d ∈ h.superChain k) (i : Int) : h.vtableAt d i = h.vtableAt k i := by
  have hroot := (h.super_eq_none_iff h.objectKlass).mpr rfl
  rw [superChain_of_super (hd.super_eq k hk), superChain_of_root hroot] at hdk
  rcases List.mem_pair.mp hdk with rfl | rfl
  · rfl
  · exact (hd.vtableAt_eq hk i).symm

theorem mem_vtable_of_vtableAt {k : KlassId} {i : Int} {entry : Option Method}
    (he : h.vtableAt k i = some entry) : entry ∈ (h.klass k).vtable := by
  unfold vtableAt at he
  split at he
  · exact List.getElem?_mem he
  · cases he

theorem exists_mem_range_of_vtableAt {d : KlassId} {i : Int} {entry : Option Method}
    (he : h.vtableAt d i = some entry) : ∃ j ∈ List.range (h.vtableLength d), i = j := by
  obtain ⟨h0, hlt⟩ := vtableAt_eq_some he
  exact ⟨i.toNat, List.mem_range.mpr (by omega), (Int.toNat_of_nonneg h0).symm⟩

theorem wellFormedAt_spec {k : KlassId} (hc : h.wellFormedAt k = true) :
    (∀ d ∈ h.superChain k, ∀ mk ∈ (h.klass k).methods, ∀ md ∈ (h.klass d).methods,
      mk.flags.isStatic = false → h.overrides mk md = true →
      (0 ≤ md.vtableIndex → h.vtableAt k md.vtableIndex = some (some mk)) ∧
      (mk ≠ md → md.flags.isFinal = false)) ∧
    (∀ s, (h.klass k).super = some s → ∀ i e, h.vtableAt s i = some (some e) →
      (∀ mk ∈ (h.klass k).methods, mk.flags.isStatic = false → h.overrides mk e = false) →
      h.vtableAt k i = some (some e)) := by
  simp only [wellFormedAt, Bool.and_eq_true, List.all_eq_true] at hc
  refine ⟨fun d hd mk hmk md hmd hs ho => ?_, fun s hs i e hse hno => ?_⟩
  · have hmd := hc.1 d hd mk hmk md hmd
    simp only [hs, ho, Bool.false_or, Bool.not_true, Bool.and_eq_true, Bool.or_eq_true,
      decide_eq_true_eq, Bool.not_eq_true'] at hmd
    exact ⟨fun h0 => hmd.1.resolve_left (by omega), hmd.2.resolve_left⟩
  · obtain ⟨j, hj, rfl⟩ := exists_mem_range_of_vtableAt hse
    have hi := hc.2
    simp only [hs, Option.all, List.all_eq_true] at hi
    have hi := hi j hj
    rw [Option.join_eq_some.mpr hse] at hi
    simp only [Option.all, Bool.or_eq_true, List.any_eq_true,
      Bool.and_eq_true, Bool.not_eq_true', decide_eq_true_eq] at hi
    rcases hi with ⟨mk, hmk, hs, ho⟩ | hi
    · rw [hno mk hmk hs] at ho
      cases ho
    · exact hi

theorem VtableSlotsMatch.of_check (hd : h.DefaultFrom n)
    (hc : (List.range n).all h.slotsMatchAt = true) : h.VtableSlotsMatch where
  slot_of_vtableIndex k m hm hidx := by
    by_cases hk : k < n
    · have hck := List.all_eq_true.mp hc k (List.mem_range.mpr hk)
      simp only [slotsMatchAt, Bool.and_eq_true, List.all_eq_true] at hck
      have hslot := hck.1 m hm
      cases he : (h.vtableAt k m.vtableIndex).join with
      | none =>
        rw [he] at hslot
        simp [show ¬m.vtableIndex < 0 by omega] at hslot
      | some e =>
        rw [he] at hslot
        simp only [show ¬m.vtableIndex < 0 by omega, decide_False, Bool.false_or, Option.any,
          Bool.and_eq_true, beq_iff_eq] at hslot
        exact ⟨e, Option.join_eq_some.mp he, hslot⟩
    · rw [hd.methods_eq k (Nat.le_of_not_lt hk)] at hm
      cases hm
  slot_of_super k d hdk i e e' hde hke := by
    by_cases hk : k < n
    · have hck := List.all_eq_true.mp hc k (List.mem_range.mpr hk)
      simp only [slotsMatchAt, Bool.and_eq_true, List.all_eq_true] at hck
      obtain ⟨j, hj, rfl⟩ := exists_mem_range_of_vtableAt hde
      have hslot := hck.2 d hdk j hj
      rw [Option.join_eq_some.mpr hde, Option.join_eq_some.mpr hke] at hslot
      simpa [Option.all] using hslot
    · rw [hd.vtableAt_of_mem_superChain (Nat.le_of_not_lt hk) hdk, hke] at hde
      cases hde
      exact ⟨rfl, rfl⟩

theorem NoStaticInVtables.of_check (hd : h.DefaultFrom n)
    (hc : (List.range n).all h.noStaticAt = true) : h.NoStaticInVtables := by
  have hlow : ∀ k < n, ∀ i m, h.vtableAt k i = some (some m) → m.flags.isStatic = false :=
    fun k hk i m hm => by
      have hck := List.all_eq_true.mp (List.all_eq_true.mp hc k (List.mem_range.mpr hk)) _
        (mem_vtable_of_vtableAt hm)
      simpa [Option.all] using hck
  intro k i m hm
  by_cases hk : k < n
  · exact hlow k hk i m hm
  · exact hlow _ hd.object_lt i m (by rwa [← hd.vtableAt_eq (Nat.le_of_not_lt hk)])

theorem VtablesWellFormed.of_check (hd : h.DefaultFrom n)
    (hc : (List.range n).all h.wellFormedAt = true) : h.VtablesWellFormed where
  overrider_occupies k d mk md hdk hmk hmd hs hidx ho := by
    by_cases hk : k < n
    · exact ((wellFormedAt_spec (List.all_eq_true.mp hc k (List.mem_range.mpr hk))).1
        d hdk mk hmk md hmd hs ho).1 hidx
    · rw [hd.methods_eq k (Nat.le_of_not_lt hk)] at hmk
      cases hmk
  inherits k s i e hks hse hno := by
    by_cases hk : k < n
    · exact (wellFormedAt_spec (List.all_eq_true.mp hc k (List.mem_range.mpr hk))).2
        s hks i e hse hno
    · rw [hd.super_eq k (Nat.le_of_not_lt hk)] at hks
      cases hks
      rwa [hd.vtableAt_eq (Nat.le_of_not_lt hk)]
  final_not_overridden k d mk md hdk hmk hmd hne hs hfinal := by
    by_cases hk : k < n
    · cases ho : h.overrides mk md
      · rfl
      · have hnf := ((wellFormedAt_spec (List.all_eq_true.mp hc k (List.mem_range.mpr hk))).1
          d hdk mk hmk md hmd hs ho).2 hne
        rw [hfinal] at hnf
        cases hnf
    · rw [hd.methods_eq k (Nat.le_of_not_lt hk)] at hmk
      cases hmk

end Hierarchy

namespace Arena

variable {ks : List Klass} {object : KlassId}

theorem klassAt_induction {p : Klass → Prop} (hks : ∀ c ∈ ks, p c)
    (hdefault : p (defaultKlass ks object)) (k : KlassId) : p (klassAt ks object k) := by
  unfold klassAt
  cases hk : ks[k]? with
  | none => exact hdefault
  | some c => exact hks c (List.getElem?_mem hk)

theorem klassAt_of_length_le {k : KlassId} (hk : ks.length ≤ k) :
    klassAt ks object k = defaultKlass ks object := by
  simp [klassAt, List.getElem?_eq_none_iff.mpr hk]

variable {methodHandle : KlassId} {hwf : WellFormed ks object methodHandle = true}

theorem defaultFrom : (Hierarchy.ofArena ks object methodHandle hwf).DefaultFrom ks.length := by
  have hobject : object < ks.length := by
    simp only [WellFormed, Bool.and_eq_true, decide_eq_true_eq] at hwf
    exact hwf.1.1
  have hc : ks[object]? = some ks[object] := List.getElem?_eq_getElem hobject
  refine ⟨hobject, fun k hk => ?_, fun k hk => ?_, fun k hk => ?_⟩ <;>
    simp only [Hierarchy.ofArena] <;> rw [klassAt_of_length_le hk] <;>
    simp [defaultKlass, klassAt, hc]

theorem vtablesEmpty (hks : ∀ c ∈ ks, c.vtable = []) :
    (Hierarchy.ofArena ks object methodHandle hwf).VtablesEmpty :=
  klassAt_induction (p := fun c => c.vtable = []) hks <| by
    cases hc : ks[object]? with
    | none => simp [defaultKlass, hc]
    | some c => simp [defaultKlass, hc, hks c (List.getElem?_mem hc)]

theorem methodsNonvirtual (hks : ∀ c ∈ ks, ∀ m ∈ c.methods, m.vtableIndex = nonvirtualVtableIndex) :
    (Hierarchy.ofArena ks object methodHandle hwf).MethodsNonvirtual := fun k =>
  klassAt_induction (p := fun c => ∀ m ∈ c.methods, m.vtableIndex = nonvirtualVtableIndex) hks
    (by simp [defaultKlass]) k

end Arena

end HotspotLinking
