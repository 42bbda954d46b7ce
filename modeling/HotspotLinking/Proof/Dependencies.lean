import Mathlib.Data.List.Infix
import Mathlib.Data.List.Nodup
import HotspotLinking.Dependencies

/-!
# The dependency list under concurrent `record_dependency`

`add` checks for the dependency without the lock, and `locked_add` checks again under it,
but only from the last node the unlocked walk saw. The list itself stays well formed in every
interleaving: it is finite, a non-null slot is never written again, the only `NULL` slot is
that of a head with no successor, and a thread that returns normally leaves its loader on the
from-loader's parent chain or in the list. That is the invariant `Inv`: a per-thread part
`ThreadInv` saying what each thread's locals know about the list, and a part about the list
itself. `Inv.preserve` shows that one step of any thread keeps it, and that the step leaves every
entry in place and adds at most the stepping thread's loader; `inv_of_reachable` carries it
along every interleaving.

The duplicate check does not survive the interleaving. `add` loads a node's two slots one
after the other: a thread that loads the empty head's slot 0, then the head's slot 1 after
another thread filled slot 0 with the same loader and a third linked a node after it, walks
on past the head, and `locked_add`, re-walking from where it stopped, links the loader a
second time.
-/

namespace HotspotLinking

namespace ClassLoaderDependencies

/-! ### What the list holds -/

/-- `l` lists the nodes reached from `o` through slot 1, up to `NULL`. A list that loops has
no such `l`. -/
inductive Chain (heap : Nat → Node) : Option Nat → List Nat → Prop
  | nil : Chain heap none []
  | cons {n : Nat} {l : List Nat} : Chain heap (heap n).next l → Chain heap (some n) (n :: l)

/-- The loaders the nodes `l` hold, in list order, `NULL` slots skipped. -/
def entries (heap : Nat → Node) (l : List Nat) : List LoaderId :=
  l.filterMap fun n => (heap n).loader

/-- `x` is on the parent chain of `loader`, `loader` included. -/
inductive OnParentChain (parent : LoaderId → Option LoaderId) : LoaderId → LoaderId → Prop
  | refl (loader : LoaderId) : OnParentChain parent loader loader
  | up {loader p x : LoaderId} :
      parent loader = some p → OnParentChain parent p x → OnParentChain parent loader x

namespace Chain

variable {heap heap' : Nat → Node} {o : Option Nat} {l : List Nat}

theorem eq_head? (h : Chain heap o l) : o = l.head? := by
  cases h <;> rfl

theorem unique {l' : List Nat} (h : Chain heap o l) (h' : Chain heap o l') : l = l' := by
  induction h generalizing l' with
  | nil => cases h'; rfl
  | cons _ ih => cases h' with
    | cons h' => rw [ih h']

theorem drop {pre rest : List Nat} (h : Chain heap o (pre ++ rest)) :
    Chain heap rest.head? rest := by
  induction pre generalizing o with
  | nil =>
    rw [List.nil_append] at h
    rwa [← h.eq_head?]
  | cons n pre ih => cases h with
    | cons h => exact ih h

theorem nodup (h : Chain heap o l) : l.Nodup := by
  induction h with
  | nil => exact List.nodup_nil
  | @cons n l h ih =>
    refine List.nodup_cons.2 ⟨fun hn => ?_, ih⟩
    obtain ⟨pre, rest, rfl⟩ := List.append_of_mem hn
    have hlen := congrArg List.length ((Chain.cons h).unique h.drop)
    simp at hlen
    omega

theorem congr (h : Chain heap o l) (hnext : ∀ n ∈ l, (heap' n).next = (heap n).next) :
    Chain heap' o l := by
  induction h with
  | nil => exact .nil
  | @cons n l _ ih =>
    refine .cons ?_
    rw [hnext n (List.mem_cons_self n l)]
    exact ih fun m hm => hnext m (List.mem_cons_of_mem n hm)

theorem snoc {pre : List Nat} {last new : Nat} (h : Chain heap o (pre ++ [last]))
    (hnext : ∀ n ∈ pre, (heap' n).next = (heap n).next) (hlast : (heap' last).next = some new)
    (hnew : (heap' new).next = none) : Chain heap' o (pre ++ [last, new]) := by
  induction pre generalizing o with
  | nil =>
    cases h
    exact .cons (hlast ▸ .cons (hnew ▸ .nil))
  | cons n pre ih =>
    cases h with
    | cons h =>
      refine .cons ?_
      rw [hnext n (List.mem_cons_self n pre)]
      exact ih h fun m hm => hnext m (List.mem_cons_of_mem n hm)

theorem next_eq {pre : List Nat} {n : Nat} (h : Chain heap o l) (hp : pre ++ [n] <+: l) :
    ∃ rest, l = pre ++ n :: rest ∧ (heap n).next = rest.head? := by
  obtain ⟨rest, rfl⟩ := hp
  rw [List.append_assoc, List.singleton_append] at h ⊢
  cases h.drop with
  | cons h' => exact ⟨rest, rfl, h'.eq_head?⟩

end Chain

@[simp]
theorem mem_entries {heap : Nat → Node} {l : List Nat} {x : LoaderId} :
    x ∈ entries heap l ↔ ∃ n ∈ l, (heap n).loader = some x :=
  List.mem_filterMap

@[simp]
theorem entries_append (heap : Nat → Node) (l l' : List Nat) :
    entries heap (l ++ l') = entries heap l ++ entries heap l' :=
  List.filterMap_append ..

theorem entries_congr {heap heap' : Nat → Node} {l : List Nat}
    (h : ∀ n ∈ l, (heap' n).loader = (heap n).loader) : entries heap' l = entries heap l :=
  List.filterMap_congr h

namespace OnParentChain

variable {parent : LoaderId → Option LoaderId} {loader p x : LoaderId}

theorem tail {f : LoaderId} (h : OnParentChain parent f loader) (hp : parent loader = some p) :
    OnParentChain parent f p := by
  induction h with
  | refl => exact .up hp (.refl p)
  | up hq _ ih => exact .up hq (ih hp)

theorem of_up (h : OnParentChain parent loader x) (hne : loader ≠ x)
    (hp : parent loader = some p) : OnParentChain parent p x := by
  cases h with
  | refl => exact absurd rfl hne
  | up hq h => rwa [Option.some.inj (hq.symm.trans hp)] at h

theorem eq_of_parent_eq_none (h : OnParentChain parent loader x) (hp : parent loader = none) :
    loader = x := by
  cases h with
  | refl => rfl
  | up hq _ => simp [hp] at hq

end OnParentChain

theorem Chain.head_prefix {heap : Nat → Node} {n : Nat} {l : List Nat}
    (h : Chain heap (some n) l) : [n] <+: l := by
  cases h with
  | cons _ => exact List.prefix_append _ _

/-! ### The invariant -/

section Invariant

variable {τ : Type} (c : Setup τ)

/-- Thread `t` records `x` and has come out of `record_dependency`'s loop into `add`: `x` is
not on the from-loader's parent chain. -/
def Adds (t : τ) (x : LoaderId) : Prop :=
  c.toLoader t = some x ∧ ∃ f, c.fromLoader = some f ∧ ¬OnParentChain c.parent f x

/-- `n` is the node `add` allocated for `x`, below the allocation top and not on the list. -/
def Unpublished (heap : Nat → Node) (top : Nat) (l : List Nat) (x : LoaderId) (n : Nat) :
    Prop :=
  heap n = { loader := some x } ∧ n ∉ l ∧ n < top

/-- No node of the visited prefix `seen` after the head holds `x`. The head is left out: its
slot 0 is the one slot of the list that changes. -/
def Unseen (heap : Nat → Node) (x : LoaderId) (seen : List Nat) : Prop :=
  ∀ y ∈ seen.tail, (heap y).loader ≠ some x

/-- `n` is a node of the list `l`, and no node after the head and before `n` holds `x`. -/
def AbsentBefore (heap : Nat → Node) (l : List Nat) (x : LoaderId) (n : Nat) : Prop :=
  ∃ pre, pre ++ [n] <+: l ∧ Unseen heap x pre

/-- `AbsentBefore`, and `n` holds no `x` either unless it is the head. -/
def AbsentThrough (heap : Nat → Node) (l : List Nat) (x : LoaderId) (n : Nat) : Prop :=
  ∃ pre, pre ++ [n] <+: l ∧ Unseen heap x (pre ++ [n])

/-- What thread `t`'s locals at `p` know about the list `l`. A walk knows nothing of the
head: a slot 0 it loaded `NULL` there may have been filled since. -/
def ThreadInv (heap : Nat → Node) (top : Nat) (l : List Nat) (t : τ) : Pc → Prop
  | .recordDependency | .threw => True
  | .parentWalk current => ∃ f x, c.fromLoader = some f ∧ c.toLoader t = some x ∧
      OnParentChain c.parent f current ∧
        (OnParentChain c.parent f x → OnParentChain c.parent current x)
  | .walk (some n) _ | .walk none (some n) | .allocate n =>
      ∃ x, Adds c t x ∧ AbsentBefore heap l x n
  | .walkNext n => ∃ x, Adds c t x ∧ AbsentThrough heap l x n
  | .walk none none => False
  | .lock n new | .lockedWalk (some n) _ new =>
      ∃ x, Adds c t x ∧ AbsentBefore heap l x n ∧ Unpublished heap top l x new
  | .lockedWalk none last new =>
      ∃ x, Adds c t x ∧ Unpublished heap top l x new ∧ last = l.getLast? ∧
        ∀ y ∈ l.tail, (heap y).loader ≠ some x
  | .done => ∀ f x, c.fromLoader = some f → c.toLoader t = some x →
      OnParentChain c.parent f x ∨ x ∈ entries heap l

/-- The invariant of the reachable states, `l` being the list from the head. -/
structure Inv (s : State τ) (l : List Nat) : Prop where
  chain : Chain s.heap (some c.listHead) l
  lt_top : ∀ n ∈ l, n < s.top
  tail_entries_nodup : (entries s.heap l.tail).Nodup
  null_only_sole_head : ∀ n ∈ l, (s.heap n).loader = none → l = [c.listHead]
  owner_iff : ∀ t, s.owner = some t ↔ (s.pc t).holdsLock
  newDependency_unique : ∀ t u n, (s.pc t).newDependency = some n →
    (s.pc u).newDependency = some n → t = u
  thread : ∀ t, ThreadInv c s.heap s.top l t (s.pc t)

/-- What a step of thread `t` may do to the list: keep every non-null entry, and append at
most `t`'s to-loader, when it is on neither the parent chain nor the list after the head. -/
def Effect (heap heap' : Nat → Node) (l l' : List Nat) (t : τ) : Prop :=
  (∀ n ∈ l, ∀ y, (heap n).loader = some y → n ∈ l' ∧ (heap' n).loader = some y) ∧
    (entries heap' l' = entries heap l ∨
      ∃ f x, c.fromLoader = some f ∧ c.toLoader t = some x ∧ ¬OnParentChain c.parent f x ∧
        x ∉ entries heap l.tail ∧ entries heap' l' = entries heap l ++ [x])

variable {c}

theorem Effect.of_loader_eq {heap heap' : Nat → Node} {l : List Nat} {t : τ}
    (h : ∀ n ∈ l, (heap' n).loader = (heap n).loader) : Effect c heap heap' l l t :=
  ⟨fun n hn _ hy => ⟨hn, (h n hn).trans hy⟩, .inl (entries_congr h)⟩

theorem ThreadInv.unpublished {heap : Nat → Node} {top : Nat} {l : List Nat} {t : τ} {p : Pc}
    {n : Nat} (h : ThreadInv c heap top l t p) (hp : p.newDependency = some n) :
    ∃ x, Unpublished heap top l x n := by
  match p, h, hp with
  | .lock _ _, ⟨x, _, _, hu⟩, rfl | .lockedWalk (some _) _ _, ⟨x, _, _, hu⟩, rfl
  | .lockedWalk none _ _, ⟨x, _, hu, _⟩, rfl => exact ⟨x, hu⟩

theorem Inv.holdsLock_unique {s : State τ} {l : List Nat} (hinv : Inv c s l) {u v : τ}
    (hu : (s.pc u).holdsLock) (hv : (s.pc v).holdsLock) : u = v :=
  Option.some.inj (((hinv.owner_iff u).2 hu).symm.trans ((hinv.owner_iff v).2 hv))

end Invariant

/-! ### The walks -/

section Walk

variable {heap : Nat → Node} {o : Option Nat} {l : List Nat} {x : LoaderId} {n : Nat}

theorem AbsentBefore.head (h : Chain heap (some n) l) : AbsentBefore heap l x n :=
  ⟨[], h.head_prefix, by simp [Unseen]⟩

theorem AbsentBefore.mem (h : AbsentBefore heap l x n) : n ∈ l :=
  let ⟨_, hpre, _⟩ := h
  hpre.subset (List.mem_append_right _ (List.mem_singleton_self n))

theorem AbsentBefore.through (h : AbsentBefore heap l x n) (hn : (heap n).loader ≠ some x) :
    AbsentThrough heap l x n := by
  obtain ⟨pre, hpre, hun⟩ := h
  refine ⟨pre, hpre, fun y hy => ?_⟩
  cases pre with
  | nil => simp at hy
  | cons z pre =>
    rcases List.mem_append.1 hy with hy | hy
    · exact hun y hy
    · exact List.mem_singleton.1 hy ▸ hn

theorem AbsentThrough.absentBefore (h : AbsentThrough heap l x n) : AbsentBefore heap l x n := by
  obtain ⟨pre, hpre, hun⟩ := h
  refine ⟨pre, hpre, fun y hy => hun y ?_⟩
  cases pre with
  | nil => simp at hy
  | cons z pre => exact List.mem_append_left _ hy

theorem AbsentThrough.next (hchain : Chain heap o l) (h : AbsentThrough heap l x n) {m : Nat}
    (hm : (heap n).next = some m) : AbsentBefore heap l x m := by
  obtain ⟨pre, hpre, hun⟩ := h
  obtain ⟨rest, rfl, hrest⟩ := hchain.next_eq hpre
  cases rest with
  | nil => cases hm.symm.trans hrest
  | cons m' rest =>
    obtain rfl : m = m' := Option.some.inj (hm.symm.trans hrest)
    exact ⟨pre ++ [n], ⟨rest, by simp⟩, hun⟩

theorem AbsentThrough.getLast? (hchain : Chain heap o l) (h : AbsentThrough heap l x n)
    (hnone : (heap n).next = none) :
    l.getLast? = some n ∧ ∀ y ∈ l.tail, (heap y).loader ≠ some x := by
  obtain ⟨pre, hpre, hun⟩ := h
  obtain ⟨rest, rfl, hrest⟩ := hchain.next_eq hpre
  obtain rfl : rest = [] := List.head?_eq_none_iff.1 (hrest.symm.trans hnone)
  exact ⟨by simp, hun⟩

end Walk

/-! ### Steps of the other threads -/

/-- What a step may do to the heap, the allocation top and the list, `l` before it and `l'`
after, as a thread at `p` that does not take it sees them. -/
structure Frame (heap heap' : Nat → Node) (top top' : Nat) (l l' : List Nat) (p : Pc) :
    Prop where
  grows : l <+: l'
  loader : ∀ n ∈ l, (heap' n).loader = (heap n).loader ∨ ((heap n).loader = none ∧ l = [n])
  new : ∀ n, p.newDependency = some n → n ∉ l → n < top → heap' n = heap n ∧ n ∉ l'
  top_le : top ≤ top'
  locked : p.holdsLock → l' = l ∧ ∀ n ∈ l, (heap' n).loader = (heap n).loader

namespace Frame

variable {heap heap' : Nat → Node} {top top' : Nat} {l l' : List Nat} {p : Pc}
  {x : LoaderId} {n : Nat}

theorem unseen (hf : Frame heap heap' top top' l l' p) {seen : List Nat} (hseen : seen <+: l)
    (h : Unseen heap x seen) : Unseen heap' x seen := by
  intro y hy
  rcases hf.loader y (hseen.subset (List.mem_of_mem_tail hy)) with h' | ⟨-, rfl⟩
  · rw [h']
    exact h y hy
  · have hlen := hseen.length_le
    have hpos := List.length_pos_of_mem hy
    simp only [List.length_tail, List.length_singleton] at hlen hpos
    omega

theorem absentBefore (hf : Frame heap heap' top top' l l' p) (h : AbsentBefore heap l x n) :
    AbsentBefore heap' l' x n :=
  let ⟨pre, hpre, hun⟩ := h
  ⟨pre, hpre.trans hf.grows, hf.unseen ((List.prefix_append _ _).trans hpre) hun⟩

theorem absentThrough (hf : Frame heap heap' top top' l l' p) (h : AbsentThrough heap l x n) :
    AbsentThrough heap' l' x n :=
  let ⟨pre, hpre, hun⟩ := h
  ⟨pre, hpre.trans hf.grows, hf.unseen hpre hun⟩

theorem unpublished (hf : Frame heap heap' top top' l l' p) (hp : p.newDependency = some n)
    (h : Unpublished heap top l x n) : Unpublished heap' top' l' x n := by
  obtain ⟨hheap, hnl, hlt⟩ := h
  obtain ⟨heq, hnl'⟩ := hf.new n hp hnl hlt
  exact ⟨heq.trans hheap, hnl', lt_of_lt_of_le hlt hf.top_le⟩

theorem entries_subset (hf : Frame heap heap' top top' l l' p) :
    entries heap l ⊆ entries heap' l' := by
  intro x hx
  obtain ⟨n, hn, hx⟩ := mem_entries.1 hx
  refine mem_entries.2 ⟨n, hf.grows.subset hn, ?_⟩
  rcases hf.loader n hn with h | ⟨h, -⟩
  · rw [h, hx]
  · simp [h] at hx

end Frame

theorem ThreadInv.frame {τ : Type} {c : Setup τ} {heap heap' : Nat → Node} {top top' : Nat}
    {l l' : List Nat} {t : τ} {p : Pc} (hf : Frame heap heap' top top' l l' p)
    (h : ThreadInv c heap top l t p) : ThreadInv c heap' top' l' t p := by
  match p, hf, h with
  | .recordDependency, _, _ | .threw, _, _ => trivial
  | .parentWalk _, _, h => exact h
  | .walk none none, _, h => exact h.elim
  | .walk (some _) _, hf, ⟨x, hx, ha⟩ | .walk none (some _), hf, ⟨x, hx, ha⟩
  | .allocate _, hf, ⟨x, hx, ha⟩ => exact ⟨x, hx, hf.absentBefore ha⟩
  | .walkNext _, hf, ⟨x, hx, ha⟩ => exact ⟨x, hx, hf.absentThrough ha⟩
  | .lock _ _, hf, ⟨x, hx, ha, hu⟩ | .lockedWalk (some _) _ _, hf, ⟨x, hx, ha, hu⟩ =>
    exact ⟨x, hx, hf.absentBefore ha, hf.unpublished rfl hu⟩
  | .lockedWalk none _ _, hf, ⟨x, hx, hu, hlast, habs⟩ =>
    obtain ⟨rfl, hload⟩ := hf.locked rfl
    exact ⟨x, hx, hf.unpublished rfl hu, hlast, fun y hy =>
      hload y (List.mem_of_mem_tail hy) ▸ habs y hy⟩
  | .done, hf, h => exact fun f x hf' hx => (h f x hf' hx).imp_right (hf.entries_subset ·)

/-! ### One step of the stepping thread -/

section Step

variable {τ : Type} [DecidableEq τ] {c : Setup τ} {s : State τ} {l : List Nat} {t : τ}

theorem Inv.owner_iff_update (hinv : Inv c s l) {q p : Pc} (hpc : s.pc t = q)
    (hp : p.holdsLock = q.holdsLock) :
    ∀ u, s.owner = some u ↔ (Function.update s.pc t p u).holdsLock := by
  intro u
  rcases eq_or_ne u t with rfl | hu
  · rw [Function.update_same, hp, ← hpc, hinv.owner_iff]
  · rw [Function.update_noteq hu, hinv.owner_iff]

theorem Inv.owner_iff_acquire (hinv : Inv c s l) (hfree : s.owner = none) {p : Pc}
    (hp : p.holdsLock) : ∀ u, some t = some u ↔ (Function.update s.pc t p u).holdsLock := by
  intro u
  rcases eq_or_ne u t with rfl | hu
  · simp [hp]
  · rw [Function.update_noteq hu, ← hinv.owner_iff, hfree]
    simp [Ne.symm hu]

theorem Inv.owner_iff_release (hinv : Inv c s l) (hheld : (s.pc t).holdsLock) {p : Pc}
    (hp : p.holdsLock = false) :
    ∀ u, none = some u ↔ (Function.update s.pc t p u).holdsLock := by
  intro u
  rcases eq_or_ne u t with rfl | hu
  · simp [hp]
  · rw [Function.update_noteq hu]
    simpa using fun h => hu (hinv.holdsLock_unique h hheld)

theorem Inv.newDependency_unique_update (hinv : Inv c s l) {p : Pc}
    (hp : ∀ n, p.newDependency = some n →
      (s.pc t).newDependency = some n ∨ ∀ u, (s.pc u).newDependency ≠ some n) :
    ∀ u v n, (Function.update s.pc t p u).newDependency = some n →
      (Function.update s.pc t p v).newDependency = some n → u = v := by
  have key : ∀ u n, (Function.update s.pc t p u).newDependency = some n →
      (s.pc u).newDependency = some n ∨ (u = t ∧ ∀ w, (s.pc w).newDependency ≠ some n) := by
    intro u n hu
    rcases eq_or_ne u t with rfl | hut
    · rw [Function.update_same] at hu
      exact (hp n hu).imp_right fun h => ⟨rfl, h⟩
    · rw [Function.update_noteq hut] at hu
      exact .inl hu
  intro u v n hu hv
  rcases key u n hu with hu' | ⟨rfl, hu'⟩ <;> rcases key v n hv with hv' | ⟨rfl, hv'⟩
  · exact hinv.newDependency_unique u v n hu' hv'
  · exact absurd hu' (hv' u)
  · exact absurd hv' (hu' v)
  · rfl

theorem Inv.move (hinv : Inv c s l) {q p : Pc} {owner : Option τ} (hpc : s.pc t = q)
    (howner : ∀ u, owner = some u ↔ (Function.update s.pc t p u).holdsLock)
    (hnew : p.newDependency = none ∨ p.newDependency = q.newDependency)
    (ht : ThreadInv c s.heap s.top l t p) :
    Inv c ⟨s.heap, s.top, owner, Function.update s.pc t p⟩ l where
  chain := hinv.chain
  lt_top := hinv.lt_top
  tail_entries_nodup := hinv.tail_entries_nodup
  null_only_sole_head := hinv.null_only_sole_head
  owner_iff := howner
  newDependency_unique := hinv.newDependency_unique_update fun n hn => by
    rcases hnew with h | h
    · simp [h] at hn
    · exact .inl (hpc ▸ h ▸ hn)
  thread u := by
    rcases eq_or_ne u t with rfl | hu
    · simpa using ht
    · simpa [Function.update_noteq hu] using hinv.thread u

theorem Inv.setPc (hinv : Inv c s l) {q p : Pc} (hpc : s.pc t = q)
    (hlock : p.holdsLock = q.holdsLock)
    (hnew : p.newDependency = none ∨ p.newDependency = q.newDependency)
    (ht : ThreadInv c s.heap s.top l t p) :
    ∃ l', Inv c (s.setPc t p) l' ∧ Effect c s.heap (s.setPc t p).heap l l' t :=
  ⟨l, hinv.move hpc (hinv.owner_iff_update hpc hlock) hnew ht,
    Effect.of_loader_eq fun _ _ => rfl⟩

theorem Inv.allocate (hinv : Inv c s l) {last : Nat} (hpc : s.pc t = .allocate last) :
    Inv c ⟨Function.update s.heap s.top { loader := c.toLoader t }, s.top + 1, s.owner,
        Function.update s.pc t (.lock last s.top)⟩ l ∧
      Effect c s.heap (Function.update s.heap s.top { loader := c.toLoader t }) l l t := by
  set heap' := Function.update s.heap s.top { loader := c.toLoader t } with hheap'
  have hbelow : ∀ n < s.top, heap' n = s.heap n := fun n hn => Function.update_noteq hn.ne _ _
  have hlist : ∀ n ∈ l, heap' n = s.heap n := fun n hn => hbelow n (hinv.lt_top n hn)
  have hloader : ∀ n ∈ l, (heap' n).loader = (s.heap n).loader := fun n hn => by
    rw [hlist n hn]
  have hframe : ∀ p, Frame s.heap heap' s.top (s.top + 1) l l p := fun p =>
    { grows := List.prefix_rfl
      loader := fun n hn => .inl (hloader n hn)
      new := fun n _ hn hlt => ⟨hbelow n hlt, hn⟩
      top_le := Nat.le_succ _
      locked := fun _ => ⟨rfl, hloader⟩ }
  have ht := hinv.thread t
  rw [hpc] at ht
  obtain ⟨x, hx, ha⟩ := ht
  refine ⟨{ chain := hinv.chain.congr fun n hn => congrArg Node.next (hlist n hn)
            lt_top := fun n hn => Nat.lt_succ_of_lt (hinv.lt_top n hn)
            tail_entries_nodup := by
              rw [entries_congr fun n hn => hloader n (List.mem_of_mem_tail hn)]
              exact hinv.tail_entries_nodup
            null_only_sole_head := fun n hn h => hinv.null_only_sole_head n hn (hloader n hn ▸ h)
            owner_iff := hinv.owner_iff_update hpc rfl
            newDependency_unique := hinv.newDependency_unique_update fun n hn => .inr fun u hu => ?_
            thread := fun u => ?_ }, Effect.of_loader_eq hloader⟩
  · obtain ⟨-, -, -, hlt⟩ := (hinv.thread u).unpublished hu
    cases hn
    exact lt_irrefl _ hlt
  · rcases eq_or_ne u t with rfl | hu
    · simp only [Function.update_same]
      exact ⟨x, hx, (hframe (.allocate last)).absentBefore ha,
        by rw [hheap', Function.update_same, hx.1],
        fun h => lt_irrefl _ (hinv.lt_top _ h), Nat.lt_succ_self _⟩
    · simp only [Function.update_noteq hu]
      exact (hinv.thread u).frame (hframe _)

theorem Inv.write (hinv : Inv c s l) {last new : Nat} {heap' : Nat → Node} {l' : List Nat}
    (hpc : s.pc t = .lockedWalk none (some last) new)
    (hchain : Chain heap' (some c.listHead) l') (hlt : ∀ n ∈ l', n < s.top)
    (hnodup : (entries heap' l'.tail).Nodup)
    (hnull : ∀ n ∈ l', (heap' n).loader = none → l' = [c.listHead])
    (hadded : ∀ x, c.toLoader t = some x → x ∈ entries heap' l')
    (hframe : ∀ u, u ≠ t → ¬(s.pc u).holdsLock →
      Frame s.heap heap' s.top s.top l l' (s.pc u)) :
    Inv c ⟨heap', s.top, none, Function.update s.pc t .done⟩ l' := by
  have hheld : (s.pc t).holdsLock := hpc ▸ rfl
  refine ⟨hchain, hlt, hnodup, hnull, hinv.owner_iff_release hheld rfl,
    hinv.newDependency_unique_update fun n hn => (by cases hn), fun u => ?_⟩
  rcases eq_or_ne u t with rfl | hu
  · simp only [Function.update_same]
    exact fun _ x _ hx => .inr (hadded x hx)
  · simp only [Function.update_noteq hu]
    exact (hinv.thread u).frame (hframe u hu fun h => hu (hinv.holdsLock_unique h hheld))

theorem Inv.fillHead (hinv : Inv c s l) {last new : Nat}
    (hpc : s.pc t = .lockedWalk none (some last) new) (hnull : (s.heap last).loader = none) :
    Inv c ⟨lockedAddWrite s.heap last new, s.top, none, Function.update s.pc t .done⟩ l ∧
      Effect c s.heap (lockedAddWrite s.heap last new) l l t := by
  have ht := hinv.thread t
  rw [hpc] at ht
  obtain ⟨x, hx, ⟨hnew, -, -⟩, hlast, -⟩ := ht
  have hmem : last ∈ l := List.mem_of_getLast?_eq_some hlast.symm
  obtain rfl := hinv.null_only_sole_head last hmem hnull
  obtain rfl : last = c.listHead := List.mem_singleton.1 hmem
  set heap' := lockedAddWrite s.heap c.listHead new
  have hhead : heap' c.listHead = { s.heap c.listHead with loader := some x } := by
    simp only [heap', lockedAddWrite_of_null hnull, hnew]
  have hentries : entries heap' [c.listHead] = [x] := by simp [entries, hhead]
  refine ⟨hinv.write hpc
    (hinv.chain.congr fun n hn => by
      rw [List.mem_singleton.1 hn]
      show (heap' _).next = _
      rw [hhead])
    hinv.lt_top (by simp [entries]) (fun _ _ _ => rfl)
    (fun y hy => by
      rw [hentries, ← Option.some.inj (hx.1.symm.trans hy)]
      exact List.mem_singleton_self x)
    fun _ _ hfree =>
      { grows := List.prefix_rfl
        loader := fun n hn => .inr (by rw [List.mem_singleton.1 hn]; exact ⟨hnull, rfl⟩)
        new := fun m _ hm _ => ⟨lockedAddWrite_of_ne (List.ne_of_not_mem_cons hm), hm⟩
        top_le := le_rfl
        locked := (absurd · hfree) }, ?_⟩
  obtain ⟨hto, f, hf, hnot⟩ := hx
  refine ⟨fun n hn y hy => ?_, .inr ⟨f, x, hf, hto, hnot, by simp [entries], ?_⟩⟩
  · rw [List.mem_singleton.1 hn, hnull] at hy
    cases hy
  · rw [hentries]
    simp [entries, hnull]

theorem Inv.linkLast (hinv : Inv c s l) {last new : Nat}
    (hpc : s.pc t = .lockedWalk none (some last) new) (hnull : (s.heap last).loader ≠ none) :
    Inv c ⟨lockedAddWrite s.heap last new, s.top, none, Function.update s.pc t .done⟩
        (l ++ [new]) ∧
      Effect c s.heap (lockedAddWrite s.heap last new) l (l ++ [new]) t := by
  have ht := hinv.thread t
  rw [hpc] at ht
  obtain ⟨x, hx, ⟨hnew, hnewl, hnewtop⟩, hlast, habs⟩ := ht
  obtain ⟨pre, hpre⟩ := List.getLast?_eq_some_iff.1 hlast.symm
  have hmem : last ∈ l := List.mem_of_getLast?_eq_some hlast.symm
  have hlastpre : last ∉ pre := by
    have hnd := hinv.chain.nodup
    rw [hpre, List.nodup_append] at hnd
    exact fun h => hnd.2.2 h (List.mem_singleton_self _)
  set heap' := lockedAddWrite s.heap last new
  have hother : ∀ m, m ≠ last → heap' m = s.heap m := fun _ => lockedAddWrite_of_ne
  have hloader : ∀ m, (heap' m).loader = (s.heap m).loader := fun m => by
    rcases eq_or_ne m last with rfl | hm
    · simp only [heap', lockedAddWrite_of_ne_null hnull]
    · rw [hother m hm]
  have hnewne : new ≠ last := fun h => hnewl (h ▸ hmem)
  have hlastx : entries heap' [new] = [x] := by simp [entries, hloader, hnew]
  have hentries : entries heap' (l ++ [new]) = entries s.heap l ++ [x] := by
    rw [entries_append, entries_congr fun n _ => hloader n, hlastx]
  have htail : (l ++ [new]).tail = l.tail ++ [new] :=
    List.tail_append_of_ne_nil (List.ne_nil_of_mem hmem)
  have hx_notin : x ∉ entries s.heap l.tail := fun h =>
    let ⟨n, hn, hxn⟩ := mem_entries.1 h
    habs n hn hxn
  refine ⟨hinv.write hpc ?_ (fun n hn => ?_)
    (by
      rw [htail, entries_append, entries_congr fun n _ => hloader n, hlastx]
      exact hinv.tail_entries_nodup.append (List.nodup_singleton x)
        (List.disjoint_singleton.2 hx_notin))
    (fun n hn h => ?_)
    (fun y hy => by
      rw [hentries, ← Option.some.inj (hx.1.symm.trans hy)]
      exact List.mem_append_right _ (List.mem_singleton_self x))
    fun u hu hfree =>
      { grows := List.prefix_append _ _
        loader := fun n _ => .inl (hloader n)
        new := fun m hm hml _ => ⟨hother m (ne_of_mem_of_not_mem hmem hml).symm, fun h => by
          rcases List.mem_append.1 h with h | h
          · exact hml h
          · rw [List.mem_singleton.1 h] at hm
            exact hu (hinv.newDependency_unique u t new hm (hpc ▸ rfl))⟩
        top_le := le_rfl
        locked := (absurd · hfree) }, ?_⟩
  · rw [hpre] at hinv ⊢
    have hchain : Chain heap' (some c.listHead) (pre ++ [last, new]) := hinv.chain.snoc
      (fun n hn => by rw [hother n (ne_of_mem_of_not_mem hn hlastpre)])
      (by simp only [heap', lockedAddWrite_of_ne_null hnull]) (by rw [hother new hnewne, hnew])
    simpa using hchain
  · rcases List.mem_append.1 hn with hn | hn
    · exact hinv.lt_top n hn
    · rwa [List.mem_singleton.1 hn]
  · change (heap' n).loader = none at h
    rw [hloader] at h
    rcases List.mem_append.1 hn with hn | hn
    · have hl := hinv.null_only_sole_head n hn h
      rw [hl] at hn hmem
      rw [List.mem_singleton.1 hn, ← List.mem_singleton.1 hmem] at h
      exact absurd h hnull
    · rw [List.mem_singleton.1 hn, hnew] at h
      cases h
  · obtain ⟨hto, f, hf, hnot⟩ := hx
    exact ⟨fun n hn y hy => ⟨List.mem_append_left _ hn, (hloader n).trans hy⟩,
      .inr ⟨f, x, hf, hto, hnot, hx_notin, hentries⟩⟩

/-- **One step keeps the invariant.** Whichever thread takes it, the list after the step has
the invariant again, and the step did to it only what `Effect` allows. -/
theorem Inv.preserve (hinv : Inv c s l) {outOfMemory : Bool} {s' : State τ}
    (hstep : step c s t outOfMemory = some s') :
    ∃ l', Inv c s' l' ∧ Effect c s.heap s'.heap l l' t := by
  match hpc : s.pc t, hinv.thread t with
  | .recordDependency, _ =>
    simp only [step, hpc] at hstep
    split at hstep <;> cases hstep
    · rename_i x f hx hf
      exact hinv.setPc hpc rfl (.inl rfl) ⟨f, x, hf, hx, .refl f, id⟩
    · rename_i hnull
      exact hinv.setPc hpc rfl (.inl rfl)
        fun f x hf hx => absurd hf (hnull x f hx)
  | .parentWalk current, ⟨f, x, hf, hx, hcur, hup⟩ =>
    simp only [step, hpc] at hstep
    split_ifs at hstep with hfound
    · cases hstep
      obtain rfl : current = x := Option.some.inj (hfound.trans hx)
      refine hinv.setPc hpc rfl (.inl rfl) fun f' x' hf' hx' => ?_
      obtain rfl := Option.some.inj (hf.symm.trans hf')
      obtain rfl := Option.some.inj (hx.symm.trans hx')
      exact .inl hcur
    · have hne : current ≠ x := fun h => hfound (by rw [h, hx])
      split at hstep <;> cases hstep
      · rename_i parent hp
        exact hinv.setPc hpc rfl (.inl rfl)
          ⟨f, x, hf, hx, hcur.tail hp, fun h => (hup h).of_up hne hp⟩
      · rename_i hp
        exact hinv.setPc hpc rfl (.inl rfl)
          ⟨x, ⟨hx, f, hf, fun h => hne ((hup h).eq_of_parent_eq_none hp)⟩,
            .head hinv.chain⟩
  | .walk (some n) _, ⟨x, hx, ha⟩ =>
    simp only [step, hpc] at hstep
    split_ifs at hstep with hfound <;> cases hstep
    · exact hinv.setPc hpc rfl (.inl rfl)
        fun _ _ _ hy => .inr (mem_entries.2 ⟨n, ha.mem, hfound.trans hy⟩)
    · exact hinv.setPc hpc rfl (.inl rfl) ⟨x, hx, ha.through (hx.1 ▸ hfound)⟩
  | .walkNext n, ⟨x, hx, ha⟩ =>
    simp only [step, hpc] at hstep
    cases hstep
    refine hinv.setPc hpc rfl (.inl rfl) ?_
    cases hnext : (s.heap n).next with
    | none => exact ⟨x, hx, ha.absentBefore⟩
    | some m => exact ⟨x, hx, ha.next hinv.chain hnext⟩
  | .walk none (some last), ht =>
    simp only [step, hpc] at hstep
    cases hstep
    exact hinv.setPc hpc rfl (.inl rfl) ht
  | .walk none none, ht => exact ht.elim
  | .allocate last, _ =>
    simp only [step, hpc] at hstep
    split_ifs at hstep <;> cases hstep
    · exact hinv.setPc hpc rfl (.inl rfl) trivial
    · exact ⟨l, hinv.allocate hpc⟩
  | .lock last new, ht =>
    simp only [step, hpc] at hstep
    split_ifs at hstep with hfree
    cases hstep
    exact ⟨l, hinv.move hpc (hinv.owner_iff_acquire hfree rfl) (.inr rfl) ht,
      Effect.of_loader_eq fun _ _ => rfl⟩
  | .lockedWalk (some e) _ new, ⟨x, hx, ha, hu⟩ =>
    simp only [step, hpc] at hstep
    split_ifs at hstep with hfound <;> cases hstep
    · refine ⟨l, hinv.move hpc (hinv.owner_iff_release (hpc ▸ rfl) rfl) (.inl rfl)
        fun _ _ _ hy => .inr (mem_entries.2 ⟨e, ha.mem, ?_⟩),
        Effect.of_loader_eq fun _ _ => rfl⟩
      rw [hfound, hu.1]
      exact hx.1.symm.trans hy
    · have hthrough := ha.through (by rwa [hu.1] at hfound)
      refine hinv.setPc hpc rfl (.inr rfl) ?_
      cases hnext : (s.heap e).next with
      | none =>
        obtain ⟨hl, habs⟩ := hthrough.getLast? hinv.chain hnext
        exact ⟨x, hx, hu, hl.symm, habs⟩
      | some m => exact ⟨x, hx, hthrough.next hinv.chain hnext, hu⟩
  | .lockedWalk none (some last) new, _ =>
    simp only [step, hpc] at hstep
    cases hstep
    by_cases hnull : (s.heap last).loader = none
    · exact ⟨l, hinv.fillHead hpc hnull⟩
    · exact ⟨l ++ [new], hinv.linkLast hpc hnull⟩
  | .lockedWalk none none _, _ | .done, _ | .threw, _ => simp [step, hpc] at hstep

end Step

/-! ### Every interleaving -/

section Runs

variable {τ : Type}

theorem inv_initial (c : Setup τ) : Inv c (initial c) [c.listHead] where
  chain := .cons .nil
  lt_top := by simp [initial]
  tail_entries_nodup := by simp [entries]
  null_only_sole_head _ _ _ := rfl
  owner_iff _ := by simp [initial, Pc.holdsLock]
  newDependency_unique _ _ _ h := by simp [initial, Pc.newDependency] at h
  thread _ := trivial

variable [DecidableEq τ]

theorem inv_of_reachable {c : Setup τ} {s : State τ} (hs : Reachable c s) : ∃ l, Inv c s l := by
  induction hs with
  | refl => exact ⟨_, inv_initial c⟩
  | tail _ hstep ih =>
    obtain ⟨t, outOfMemory, hstep⟩ := hstep
    obtain ⟨l, hl⟩ := ih
    obtain ⟨l', hl', -⟩ := hl.preserve hstep
    exact ⟨l', hl'⟩

/-- **The dependency list under concurrent `record_dependency`.** Every reachable list is
finite, loader-distinct after its head, and holds what a returned thread recorded; every step
keeps its entries and appends at most the stepping thread's loader. -/
theorem recordDependency_keeps_dependency_list (c : Setup τ) {s : State τ}
    (hs : Reachable c s) :
    ∃ l, Chain s.heap (some c.listHead) l ∧ l.Nodup ∧ (entries s.heap l.tail).Nodup ∧
      (∀ n ∈ l, (s.heap n).loader = none → l = [c.listHead]) ∧
      (∀ t f x, c.fromLoader = some f → c.toLoader t = some x → s.pc t = .done →
        OnParentChain c.parent f x ∨ x ∈ entries s.heap l) ∧
      ∀ t outOfMemory s', step c s t outOfMemory = some s' →
        ∃ l', Chain s'.heap (some c.listHead) l' ∧
          (∀ n ∈ l, ∀ y, (s.heap n).loader = some y → n ∈ l' ∧ (s'.heap n).loader = some y) ∧
          (entries s'.heap l' = entries s.heap l ∨
            ∃ f x, c.fromLoader = some f ∧ c.toLoader t = some x ∧
              ¬OnParentChain c.parent f x ∧ x ∉ entries s.heap l.tail ∧
              entries s'.heap l' = entries s.heap l ++ [x]) := by
  obtain ⟨l, hinv⟩ := inv_of_reachable hs
  refine ⟨l, hinv.chain, hinv.chain.nodup, hinv.tail_entries_nodup, hinv.null_only_sole_head,
    fun t f x hf hx hdone => ?_, fun t _ s' hstep => ?_⟩
  · have ht := hinv.thread t
    rw [hdone] at ht
    exact ht f x hf hx
  · obtain ⟨l', hl', heffect⟩ := hinv.preserve hstep
    exact ⟨l', hl'.chain, heffect⟩

/-- Two threads record the same dependency of a loader without parent on its fresh list. -/
def headFillRace : Setup Bool where
  parent _ := none
  fromLoader := some 1
  toLoader _ := some 2
  listHead := 0

/-- Both threads walk the empty head and allocate; the first fills the head under the lock,
and the second, under the lock after it, finds its loader there. -/
def headFillSchedule : List (Bool × Bool) :=
  [(false, false), (true, false), (false, false), (true, false), (false, false), (true, false),
    (false, false), (true, false), (false, false), (true, false), (false, false), (true, false),
    (false, false), (false, false), (false, false), (true, false), (true, false)]

def headFillFinal : State Bool :=
  (run headFillRace (initial headFillRace) headFillSchedule).getD (initial headFillRace)

theorem headFillRace_both_find_dependency :
    Reachable headFillRace headFillFinal ∧ ∀ t, headFillFinal.pc t = .done ∧
      (OnParentChain headFillRace.parent 1 2 ∨ 2 ∈ entries headFillFinal.heap [0]) := by
  have hreach : Reachable headFillRace headFillFinal :=
    reachable_of_run .refl headFillSchedule rfl
  obtain ⟨l, hchain, -, -, -, hdone, -⟩ :=
    recordDependency_keeps_dependency_list headFillRace hreach
  obtain rfl : l = [0] := hchain.unique (.cons .nil)
  exact ⟨hreach, fun t => ⟨by cases t <;> rfl, hdone t 1 2 rfl rfl (by cases t <;> rfl)⟩⟩

/-! ### A loader listed twice -/

/-- Threads `0` and `1` record the dependency on loader `2` of a loader without parent, thread
`2` the one on loader `3`, all on its fresh list. -/
def fillRace : Setup (Fin 3) where
  parent _ := none
  fromLoader := some 1
  toLoader t := if t = 2 then some 3 else some 2
  listHead := 0

/-- Thread `0` loads the empty head's slot 0; threads `1` and `2` run to the end; thread `0`
loads the head's slot 1 and links loader `2` after node `2`. -/
def fillRaceSchedule : List (Fin 3 × Bool) :=
  List.replicate 3 (0, false) ++ List.replicate 9 (1, false) ++ List.replicate 9 (2, false) ++
    List.replicate 7 (0, false)

def fillRaceLinking : State (Fin 3) :=
  (run fillRace (initial fillRace) fillRaceSchedule).getD (initial fillRace)

def fillRaceFinal : State (Fin 3) :=
  (step fillRace fillRaceLinking 0 false).getD fillRaceLinking

/-- Thread `0`'s last step links loader `2` after the list `[0, 2]`, which holds it already:
the list ends holding it twice, though every thread returned normally. -/
theorem fillRace_lists_loader_twice :
    Reachable fillRace fillRaceLinking ∧ Chain fillRaceLinking.heap (some 0) [0, 2] ∧
      entries fillRaceLinking.heap [0, 2] = [2, 3] ∧
      step fillRace fillRaceLinking 0 false = some fillRaceFinal ∧
      (∀ t, fillRaceFinal.pc t = .done) ∧ Chain fillRaceFinal.heap (some 0) [0, 2, 3] ∧
      entries fillRaceFinal.heap [0, 2, 3] = [2, 3, 2] :=
  ⟨reachable_of_run .refl fillRaceSchedule rfl, .cons (.cons .nil), rfl, rfl, by decide,
    .cons (.cons (.cons .nil)), rfl⟩

end Runs

end ClassLoaderDependencies

end HotspotLinking
