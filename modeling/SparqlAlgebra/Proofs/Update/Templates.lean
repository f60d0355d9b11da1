import Mathlib.Data.List.Basic
import Mathlib.Tactic.Ring
import SparqlAlgebra.Update.Operation

/-!
# Instances of templates

Which quads a solution makes of a template, said of each place of the template by itself. The nodes that stand for the
blank nodes of a template are told apart by the label that they stand for, by the solution and by the seed.
-/

namespace SparqlAlgebra

/-! ## Labels -/

namespace Drawn

/-- The number that a hexadecimal digit stands for. -/
def digitValue (c : Char) : Nat := if c.toNat < 58 then c.toNat - 48 else c.toNat - 87

/-- The number that hexadecimal digits stand for. -/
def digitsValue (cs : List Char) : Nat := cs.foldl (fun n c => 16 * n + digitValue c) 0

/-- The value of the digit written for a number below sixteen. -/
theorem digitValue_digitChar {n : Nat} (h : n < 16) : digitValue (Nat.digitChar n) = n := by
  revert n
  decide

/-- The hexadecimal digits of a number have its value. -/
theorem digitsValue_toDigits (n : Nat) : digitsValue (Nat.toDigits 16 n) = n := by
  induction n using Nat.strongRecOn with
  | ind n ih =>
    by_cases hn : n < 16
    · rw [Nat.toDigits_of_lt_base hn]
      simp [digitsValue, digitValue_digitChar hn]
    · have hdiv : n / 16 < n := by omega
      rw [Nat.toDigits_of_base_le (by decide) (by omega), digitsValue, List.foldl_append, ← digitsValue, ih _ hdiv,
        List.foldl_cons, List.foldl_nil, digitValue_digitChar (by omega)]
      omega

/-- The padding does not count. -/
theorem digitsValue_lowerHex (width n : Nat) : digitsValue (lowerHex width n) = n := by
  have hpad : ∀ k, (List.replicate k '0').foldl (fun n c => 16 * n + digitValue c) 0 = 0 := by
    intro k
    induction k with
    | zero => rfl
    | succ k ih => exact ih
  rw [lowerHex, digitsValue, List.foldl_append, hpad, ← digitsValue, digitsValue_toDigits]

/-- Both numbers can be read off the pair. -/
theorem pair_inj {a b a' b' : Nat} (h : pair a b = pair a' b') : a = a' ∧ b = b' := by
  have hnext : ∀ s, (s + 1) * (s + 1 + 1) / 2 = s * (s + 1) / 2 + (s + 1) := by
    intro s
    have hsum : (s + 1) * (s + 1 + 1) = s * (s + 1) + 2 * (s + 1) := by ring
    rw [hsum, Nat.add_mul_div_left _ _ (by decide)]
  have hmono : ∀ s t, s < t → s * (s + 1) / 2 + s < t * (t + 1) / 2 := by
    intro s t hst
    induction hst with
    | refl =>
      rw [hnext]
      omega
    | @step t _ ih =>
      rw [hnext]
      omega
  unfold pair at h
  rcases Nat.lt_trichotomy (a + b) (a' + b') with hlt | heq | hgt
  · have := hmono _ _ hlt
    omega
  · rw [heq] at h
    omega
  · have := hmono _ _ hgt
    omega

/-- A label tells the seed and the site. -/
theorem label_inj {seed site seed' site' : Nat} (h : label seed site = label seed' site') :
    seed = seed' ∧ site = site' := by
  have hdigits : lowerHex 32 (pair seed site) = lowerHex 32 (pair seed' site') := String.ofList_injective h
  have hpair := congrArg digitsValue hdigits
  rw [digitsValue_lowerHex, digitsValue_lowerHex] at hpair
  exact pair_inj hpair

end Drawn

/-! ## Places -/

/-- A place of a template stands for a term in a solution: for what its variable is bound to, or for its own term, with
blank nodes renamed. -/
inductive Slot.Stands (r : Renaming) (s : Solution) : Slot → Term → Prop
  | term (t : Term) : Slot.Stands r s (.term t) (r.term t)
  | var {v : Variable} {t : Term} : s.get? v = some t → Slot.Stands r s (.var v) t

/-- A place for an IRI stands for its own one, or for the one that its variable is bound to. -/
inductive IriSlot.Stands (s : Solution) : IriSlot → Iri → Prop
  | iri (i : Iri) : IriSlot.Stands s (.iri i) i
  | var {v : Variable} {i : Iri} : s.get? v = some (.iri i) → IriSlot.Stands s (.var v) i

/-- What a graph slot stands for under a solution. -/
inductive GraphSlot.Stands (s : Solution) : GraphSlot → GraphName → Prop
  | default : GraphSlot.Stands s .default .default
  | named {name : IriSlot} {i : Iri} : name.Stands s i → GraphSlot.Stands s (.named name) (.named i)

/-- A solution makes a quad of a template: each place of the template stands for what the quad has there. There is no
such quad if a variable is unbound, or if a literal would be the subject, or anything but an IRI the predicate or the
graph. -/
structure QuadPattern.Makes (r : Renaming) (s : Solution) (p : QuadPattern) (q : Quad) : Prop where
  /-- The subject stands for that of the quad. -/
  subject : p.triple.subject.Stands r s q.triple.subject.toTerm
  /-- The predicate stands for that of the quad. -/
  predicate : p.triple.predicate.Stands s q.triple.predicate
  /-- The object stands for that of the quad. -/
  object : p.triple.object.Stands r s q.triple.object
  /-- The graph slot stands for the graph of the quad. -/
  graph : p.graph.Stands s q.graph

section Instantiate

variable {r : Renaming} {s : Solution}

/-- A slot is instantiated to the term that it stands for. -/
theorem Slot.instantiate?_eq_some_iff {slot : Slot} {t : Term} :
    slot.instantiate? r s = some t ↔ slot.Stands r s t := by
  cases slot with
  | term u => exact ⟨by rintro ⟨⟩; exact .term _, by rintro ⟨⟩; rfl⟩
  | var v => exact ⟨.var, by rintro (_ | h); exact h⟩

/-- A variable or IRI is instantiated to the IRI that it stands for. -/
theorem IriSlot.instantiate?_eq_some_iff {slot : IriSlot} {i : Iri} :
    slot.instantiate? s = some i ↔ slot.Stands s i := by
  cases slot with
  | iri j => exact ⟨by rintro ⟨⟩; exact .iri _, by rintro ⟨⟩; rfl⟩
  | var v =>
    have hvar : (IriSlot.var v).Stands s i ↔ s.get? v = some (.iri i) := ⟨by rintro (_ | h); exact h, .var⟩
    rw [hvar, instantiate?]
    split
    · simp_all
    · rename_i hother
      exact ⟨nofun, fun h => absurd h (hother i)⟩

/-- A graph slot is instantiated to the graph that it stands for. -/
theorem GraphSlot.instantiate?_eq_some_iff {slot : GraphSlot} {name : GraphName} :
    slot.instantiate? s = some name ↔ slot.Stands s name := by
  cases slot with
  | default => exact ⟨by rintro ⟨⟩; exact .default, by rintro ⟨⟩; rfl⟩
  | named iri =>
    rw [instantiate?, Option.map_eq_some_iff]
    constructor
    · rintro ⟨i, hi, rfl⟩
      exact .named (IriSlot.instantiate?_eq_some_iff.1 hi)
    · rintro ⟨hi⟩
      exact ⟨_, IriSlot.instantiate?_eq_some_iff.2 ‹_›, rfl⟩

/-- A template is instantiated to the quad that it makes. -/
theorem QuadPattern.instantiate?_eq_some_iff {p : QuadPattern} {q : Quad} :
    p.instantiate? r s = some q ↔ p.Makes r s q := by
  obtain ⟨⟨subject, predicate, object⟩, graph⟩ := q
  have hmakes : p.Makes r s ⟨⟨subject, predicate, object⟩, graph⟩ ↔
      p.triple.subject.Stands r s subject.toTerm ∧ p.triple.predicate.Stands s predicate ∧
        p.triple.object.Stands r s object ∧ p.graph.Stands s graph :=
    ⟨fun h => ⟨h.subject, h.predicate, h.object, h.graph⟩, fun h => ⟨h.1, h.2.1, h.2.2.1, h.2.2.2⟩⟩
  rw [hmakes, ← Slot.instantiate?_eq_some_iff, ← Slot.instantiate?_eq_some_iff, ← IriSlot.instantiate?_eq_some_iff,
    ← GraphSlot.instantiate?_eq_some_iff, instantiate?, TriplePattern.instantiate?]
  simp [Option.bind_eq_some_iff, Term.toResource?_eq_some_iff, and_assoc]

end Instantiate

namespace QuadPattern

variable {qs : List QuadPattern} {ss : List Solution} {q : Quad}

/-- The instances are what some solution makes of some template. -/
theorem mem_instances : q ∈ instances qs ss ↔ ∃ s ∈ ss, ∃ p ∈ qs, p.Makes id s q := by
  simp [instances, instantiate?_eq_some_iff]

/-- The same with blank nodes that are fresh for each solution. -/
theorem mem_freshInstances {seed : Nat} :
    q ∈ freshInstances qs seed ss ↔
      ∃ i s, ss[i]? = some s ∧
        ∃ p ∈ qs, p.Makes (.fresh (qs.flatMap (·.triple.blanks)) (seed + i)) s q := by
  simp only [freshInstances, List.mem_flatMap, Prod.exists, List.mem_zipIdx_iff_getElem?, List.mem_filterMap,
    instantiate?_eq_some_iff]
  exact exists_comm

end QuadPattern

/-! ## Fresh nodes -/

/-- Fresh nodes are the same only for the same blank node and the same seed. -/
theorem Renaming.fresh_inj {nodes : List BlankNode} {m n : Nat} {a b : BlankNode} (ha : a ∈ nodes)
    (h : fresh nodes m a = fresh nodes n b) : m = n ∧ a = b := by
  obtain ⟨hseed, hsite⟩ := Drawn.label_inj (congrArg BlankNode.label h)
  exact ⟨hseed, (List.idxOf_inj ha).1 hsite⟩

/-- A node that is not drawn from the seed or a later one. Whoever goes on with the seed does not meet it again. -/
def BlankNode.Before (seed : Nat) (b : BlankNode) : Prop := ∀ n site, b = ⟨Drawn.label n site⟩ → n < seed

/-- What stands for the blank nodes of templates in each of the solutions that are numbered from a seed on. -/
structure FreshNodes (templates : List QuadPattern) (seed : Nat) (node : Nat → Renaming) : Prop where
  /-- Each label of a template has a node of its own in each solution. -/
  inj : ∀ template ∈ templates, ∀ a ∈ template.triple.blanks, ∀ b i j, node i a = node j b → i = j ∧ a = b
  /-- No node was there before. -/
  ne : ∀ old : BlankNode, old.Before seed → ∀ i b, node i b ≠ old
  /-- The nodes of a solution come before the seed of the next one. -/
  before : ∀ i b, (node i b).Before (seed + i + 1)

/-- The nodes that the execution makes are fresh. -/
theorem freshNodes (templates : List QuadPattern) (seed : Nat) :
    FreshNodes templates seed fun i => .fresh (templates.flatMap (·.triple.blanks)) (seed + i) where
  inj template ht a ha b i j h := by
    obtain ⟨hseed, hab⟩ := Renaming.fresh_inj (List.mem_flatMap.2 ⟨template, ht, ha⟩) h
    exact ⟨by omega, hab⟩
  ne old hold i b h := by
    have hseed := hold _ _ h.symm
    omega
  before i b n site h := by
    have hseed := (Drawn.label_inj (congrArg BlankNode.label h)).1
    omega

end SparqlAlgebra
