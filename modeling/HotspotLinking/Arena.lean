import HotspotLinking.Hierarchy

/-!
# Hierarchies from a table

§9 of the spec keeps klasses in an arena addressed by integer ids. A finite table whose
superclasses and superinterfaces come before the klasses naming them is a hierarchy, once a
decidable check of the registry's other facts passes; ids past the table's end stand for
empty subclasses of `Object` that share its vtable.
-/

namespace HotspotLinking

namespace Arena

/-- An id past the table's end: an empty subclass of `object` with `object`'s vtable, as the
layout rules give a subclass that declares nothing. -/
def defaultKlass (ks : List Klass) (object : KlassId) : Klass :=
  { super := some object, vtable := (ks[object]?.map Klass.vtable).getD [] }

def klassAt (ks : List Klass) (object k : KlassId) : Klass :=
  ks[k]?.getD (defaultKlass ks object)

/-- The registry's facts for the klass at `k`, with every superclass and superinterface
earlier in the table. -/
def klassWellFormed (ks : List Klass) (object methodHandle k : KlassId) : Bool :=
  let c := klassAt ks object k
  (match c.super with
    | none => k == object
    | some s => decide (s < k) && k != object &&
        (!c.isArray || (klassAt ks object s).isArray || s == object)) &&
  c.localInterfaces.all (· < k) &&
  (k != object || c.transitiveInterfaces.isEmpty) &&
  c.transitiveInterfaces.all (fun i => (klassAt ks object i).isInterface) &&
  c.methods.all (fun m => m.holder == k &&
    (!m.intrinsicId.isSignaturePolymorphic || k == methodHandle)) &&
  decide (c.methods.map fun m => (m.name, m.signature)).Nodup &&
  (!c.isArray || c.methods.isEmpty)

def WellFormed (ks : List Klass) (object methodHandle : KlassId) : Bool :=
  decide (object < ks.length) && methodHandle != object &&
    (List.range ks.length).all (klassWellFormed ks object methodHandle)

theorem klassWellFormed_of {ks : List Klass} {object methodHandle : Nat}
    (hwf : WellFormed ks object methodHandle = true) (k : Nat) :
    klassWellFormed ks object methodHandle k = true := by
  simp only [WellFormed, Bool.and_eq_true, decide_eq_true_eq, List.all_eq_true,
    List.mem_range] at hwf
  by_cases hk : k < ks.length
  · exact hwf.2 k hk
  · have hle : ks.length ≤ k := Nat.le_of_not_lt hk
    have hnone : ks[k]? = none := List.getElem?_eq_none_iff.mpr hle
    have hobject := hwf.1.1
    have hlt : object < k := Nat.lt_of_lt_of_le hobject hle
    have hne : k ≠ object := Nat.ne_of_gt hlt
    simp [klassWellFormed, klassAt, defaultKlass, hnone, hne, hlt]

variable {ks : List Klass} {object methodHandle : Nat}

theorem klassFacts (hwf : WellFormed ks object methodHandle = true) (k : Nat) :
    (match (klassAt ks object k).super with
      | none => k = object
      | some s => s < k ∧ k ≠ object ∧
          ((klassAt ks object k).isArray = true → (klassAt ks object s).isArray = true ∨ s = object)) ∧
    (∀ i ∈ (klassAt ks object k).localInterfaces, i < k) ∧
    (k = object → (klassAt ks object k).transitiveInterfaces = []) ∧
    (∀ i ∈ (klassAt ks object k).transitiveInterfaces, (klassAt ks object i).isInterface = true) ∧
    (∀ m ∈ (klassAt ks object k).methods, m.holder = k ∧
      (m.intrinsicId.isSignaturePolymorphic = true → k = methodHandle)) ∧
    ((klassAt ks object k).methods.map fun m => (m.name, m.signature)).Nodup ∧
    ((klassAt ks object k).isArray = true → (klassAt ks object k).methods = []) := by
  have hk := klassWellFormed_of hwf k
  simp only [klassWellFormed, Bool.and_eq_true, List.all_eq_true, decide_eq_true_eq] at hk
  obtain ⟨⟨⟨⟨⟨⟨hsuper, hlocal⟩, hobject⟩, htrans⟩, hmethods⟩, hnodup⟩, harray⟩ := hk
  refine ⟨?_, hlocal, ?_, htrans, ?_, hnodup, ?_⟩
  · cases hs : (klassAt ks object k).super with
    | none => simpa [hs] using hsuper
    | some s =>
      simp only [hs, Bool.and_eq_true, decide_eq_true_eq, bne_iff_ne, ne_eq, Bool.or_eq_true,
        Bool.not_eq_true', beq_iff_eq] at hsuper
      refine ⟨hsuper.1.1, hsuper.1.2, fun ha => ?_⟩
      simpa [ha] using hsuper.2
  · intro hko
    simpa [hko] using hobject
  · intro m hm
    have := hmethods m hm
    simp only [Bool.and_eq_true, beq_iff_eq, Bool.or_eq_true, Bool.not_eq_true'] at this
    exact ⟨this.1, fun hp => this.2.resolve_left (by simp [hp])⟩
  · intro ha
    simpa [ha] using harray

end Arena

open Arena in
/-- The hierarchy of a well-formed table, ranked by id. -/
def Hierarchy.ofArena (ks : List Klass) (object methodHandle : KlassId)
    (hwf : WellFormed ks object methodHandle = true) : Hierarchy where
  klass := klassAt ks object
  objectKlass := object
  methodHandleKlass := methodHandle
  rank k := k
  rank_super k s hs := by
    have := (klassFacts hwf k).1
    rw [hs] at this
    exact this.1
  rank_localInterface k i hi := (klassFacts hwf k).2.1 i hi
  super_eq_none_iff k := by
    have := (klassFacts hwf k).1
    constructor
    · intro hs
      rwa [hs] at this
    · intro hk
      cases hs : (klassAt ks object k).super with
      | none => rfl
      | some s =>
        rw [hs] at this
        exact absurd hk this.2.1
  object_transitiveInterfaces := (klassFacts hwf object).2.2.1 rfl
  isInterface_of_mem_transitiveInterfaces k i hi := (klassFacts hwf k).2.2.2.1 i hi
  holder_of_mem_methods k m hm := ((klassFacts hwf k).2.2.2.2.1 m hm).1
  methods_nodup k := (klassFacts hwf k).2.2.2.2.2.1
  methods_of_isArray k hk := (klassFacts hwf k).2.2.2.2.2.2 hk
  super_of_isArray k s hk hs := by
    have := (klassFacts hwf k).1
    rw [hs] at this
    exact this.2.2 hk
  mem_methodHandle_of_signaturePolymorphic k m hm hpoly :=
    ((klassFacts hwf k).2.2.2.2.1 m hm).2 hpoly
  methodHandle_ne_object := by
    simp only [WellFormed, Bool.and_eq_true, bne_iff_ne] at hwf
    exact hwf.1.2

end HotspotLinking
