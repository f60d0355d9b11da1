import SparqlAlgebra.Proofs.Path.Solutions

/-!
# Empty paths at bound ends

A path that may be empty relates every term to itself. Between two variables it starts only at subjects and objects,
but a row may put any term at one of these ends, and then the path leads from the term to itself even if the term does
not occur in the triples. This loop is the only solution that appears when the bindings of a row are filled in.
-/

namespace SparqlAlgebra

open Solution

namespace Path

variable {ts : List Triple} {p : Path}

/-- A path that may be empty leads from each term to itself. -/
theorem relates_self (hp : p.nullable = true) (x : Term) : p.Relates ts x x := by
  induction p with
  | iri i => simp [nullable] at hp
  | negated is => simp [nullable] at hp
  | inverse p ih => exact ih hp
  | sequence p q ihp ihq =>
    rw [nullable, Bool.and_eq_true] at hp
    exact ⟨x, ihp hp.1, ihq hp.2⟩
  | alternative p q ihp ihq =>
    rw [nullable, Bool.or_eq_true] at hp
    exact hp.imp ihp ihq
  | zeroOrMore p _ => exact Relation.ReflTransGen.refl
  | oneOrMore p ih => exact Relation.TransGen.single (ih hp)
  | zeroOrOne p _ => exact .inr rfl

/-- Outside the triples a path relates nothing else. -/
theorem Relates.eq_of_notMem {x y : Term} (h : p.Relates ts x y) (hx : x ∉ nodes ts) : x = y ∧ p.nullable = true := by
  refine ⟨h.eq_or_mem.resolve_right fun hmem => hx hmem.1, ?_⟩
  by_contra hp
  exact hx (h.mem_nodes (by simpa using hp)).1

end Path

namespace PathPattern

variable {ts : List Triple} {q : PathPattern} {m u c : Solution} {e : Term × Term}

/-- The computed solutions of a path pattern. -/
def solutionsIn (ts : List Triple) (q : PathPattern) : Multiset Solution :=
  ↑(Path.solutions ts q.subject q.path q.object)

/-- The loop that a row closes: the path between two variables may be empty, the row binds one of them to a term that
does not occur in the triples, and the other one can be the same term. -/
def loop? (ts : List Triple) (q : PathPattern) (m : Solution) : Option Solution :=
  match q.subject, q.object with
  | .var v, .var w =>
    ((m.get? v).or (m.get? w)).bind fun t =>
      if q.path.nullable = true ∧ t ∉ Path.nodes ts then (q.match? (t, t)).bind m.merge? else none
  | _, _ => none

/-- The solutions of a path pattern are the matches of the related ends. Loops at open ends are only in the graph. -/
theorem mem_solutionsIn :
    u ∈ q.solutionsIn ts ↔
      ∃ e : Term × Term, q.path.Relates ts e.1 e.2 ∧ (q.isOpen = true → e.1 ∈ Path.nodes ts) ∧ q.match? e = some u :=
  Path.mem_solutions_iff q

/-- The solutions of a path pattern bind the same variables. -/
theorem sameDomain_solutionsIn (ts : List Triple) (q : PathPattern) : SameDomain (q.solutionsIn ts) := by
  intro a ha b hb v hv
  obtain ⟨e, -, -, he⟩ := mem_solutionsIn.1 ha
  obtain ⟨f, -, -, hf⟩ := mem_solutionsIn.1 hb
  obtain ⟨-, -, hvars⟩ := match?_eq_some_iff.1 he
  obtain ⟨hsubject, hobject, -⟩ := match?_eq_some_iff.1 hf
  exact (hvars v hv).elim (Slot.binds_of_bind_eq hsubject) (Slot.binds_of_bind_eq hobject)

/-- No solution is found twice for a row. -/
theorem nodup_filterMap_solutionsIn (ts : List Triple) (q : PathPattern) (m : Solution) :
    ((q.solutionsIn ts).filterMap m.merge?).Nodup := by
  have hsingle : SameDomain {m} := by
    intro a ha b hb v hv
    rw [Multiset.mem_singleton] at ha hb
    rwa [hb, ← ha]
  have hjoin := nodup_join (Multiset.nodup_singleton m) (Multiset.coe_nodup.2 (Path.nodup_solutions ts _ _ _))
    hsingle (sameDomain_solutionsIn ts q)
  rwa [← singleton_join]

/-- What a merge with a match holds at the ends. -/
theorem bind_of_match?_merge? (h : (q.match? e).bind m.merge? = some c) :
    q.subject.bind c = .term e.1 ∧ q.object.bind c = .term e.2 := by
  obtain ⟨u, hu, hc⟩ := Option.bind_eq_some_iff.1 h
  obtain ⟨hsubject, hobject, -⟩ := match?_eq_some_iff.1 hu
  have hcu := (extends_of_merge? hc).2
  exact ⟨Slot.bind_of_extends hcu hsubject, Slot.bind_of_extends hcu hobject⟩

/-- A pattern that is open with a row put in is open. -/
theorem isOpen_of_bind (h : (q.bind m).isOpen = true) : q.isOpen = true := by
  obtain ⟨x, p, y⟩ := q
  cases x with
  | term a => simp [isOpen, bind, Slot.bind, Slot.var?] at h
  | var v =>
    cases y with
    | term b => simp [isOpen, bind, Slot.bind, Slot.var?] at h
    | var w => rfl

/-- The solutions that a row is merged with are the matches that agree with it. -/
theorem mem_filterMap_solutionsIn :
    c ∈ (q.solutionsIn ts).filterMap m.merge? ↔ ∃ e : Term × Term, q.path.Relates ts e.1 e.2 ∧
      (q.isOpen = true → e.1 ∈ Path.nodes ts) ∧ (q.match? e).bind m.merge? = some c := by
  simp only [Multiset.mem_filterMap, mem_solutionsIn, Option.bind_eq_some_iff]
  constructor
  · rintro ⟨u, ⟨e, hrelates, hopen, hu⟩, hc⟩
    exact ⟨e, hrelates, hopen, u, hu, hc⟩
  · rintro ⟨e, hrelates, hopen, u, hu, hc⟩
    exact ⟨u, ⟨e, hrelates, hopen, hu⟩, hc⟩

/-- The solutions for a row are the pairs that can be merged with it. If the row leaves both ends open, the pairs start
in the triples. -/
theorem mem_filterMap_bind :
    c ∈ ((q.bind m).solutionsIn ts).filterMap m.merge? ↔ ∃ e : Term × Term, q.path.Relates ts e.1 e.2 ∧
      ((q.bind m).isOpen = true → e.1 ∈ Path.nodes ts) ∧ (q.match? e).bind m.merge? = some c := by
  rw [mem_filterMap_solutionsIn]
  simp only [bind_match?_bind_merge?]
  rfl

/-- A row that closes a loop leaves not both ends open. -/
theorem loop?_eq_some_iff :
    q.loop? ts m = some c ↔ q.isOpen = true ∧ (q.bind m).isOpen = false ∧ q.path.nullable = true ∧
      ∃ t, t ∉ Path.nodes ts ∧ (q.match? (t, t)).bind m.merge? = some c := by
  obtain ⟨x, p, y⟩ := q
  cases x with
  | term a => simp [loop?, isOpen, Slot.var?]
  | var v =>
    cases y with
    | term b => simp [loop?, isOpen, Slot.var?]
    | var w =>
      have hclosed : ((PathPattern.mk (.var v) p (.var w)).bind m).isOpen = false ↔
          ∃ t, (m.get? v).or (m.get? w) = some t := by
        cases hv : m.get? v <;> cases hw : m.get? w <;> simp [isOpen, bind, Slot.bind, Slot.var?, hv, hw]
      rw [hclosed, loop?, Option.bind_eq_some_iff]
      constructor
      · rintro ⟨t, ht, hc⟩
        split at hc
        · rename_i hloop
          exact ⟨rfl, ⟨t, ht⟩, hloop.1, t, hloop.2, hc⟩
        · cases hc
      · rintro ⟨-, ⟨t, ht⟩, hnull, x, hx, hc⟩
        -- The row and the loop agree about the end that the row binds.
        obtain ⟨hsubject, hobject⟩ := bind_of_match?_merge? hc
        obtain ⟨u, -, hmerge⟩ := Option.bind_eq_some_iff.1 hc
        have hcm := (extends_of_merge? hmerge).1
        have htx : t = x := by
          cases hv : m.get? v with
          | some y =>
            obtain rfl : y = t := by simpa [hv] using ht
            simpa [Slot.bind, hcm v y hv] using hsubject
          | none =>
            have hw : m.get? w = some t := by simpa [hv] using ht
            simpa [Slot.bind, hcm w t hw] using hobject
        rw [htx] at ht
        exact ⟨x, ht, by rw [if_pos ⟨hnull, hx⟩]; exact hc⟩

/-- A loop is no pair of terms of the triples. -/
theorem nodup_add_loop? (ts : List Triple) (q : PathPattern) (m : Solution) :
    ((q.solutionsIn ts).filterMap m.merge? + (q.loop? ts m).toList).Nodup := by
  refine Multiset.nodup_add.2 ⟨nodup_filterMap_solutionsIn ts q m, ?_, Multiset.disjoint_left.2 fun {c} hc hloop => ?_⟩
  · cases q.loop? ts m <;> simp
  · rw [Multiset.mem_coe, Option.mem_toList, loop?_eq_some_iff] at hloop
    obtain ⟨hopen, -, -, t, ht, hloop⟩ := hloop
    obtain ⟨e, -, hstart, he⟩ := mem_filterMap_solutionsIn.1 hc
    have hsame : e.1 = t := Slot.term.inj ((bind_of_match?_merge? he).1.symm.trans (bind_of_match?_merge? hloop).1)
    exact ht (hsame ▸ hstart hopen)

/-- Filling in the bindings of a row adds the loop that it closes, if there is one. -/
theorem filterMap_solutionsIn_bind (ts : List Triple) (q : PathPattern) (m : Solution) :
    ((q.bind m).solutionsIn ts).filterMap m.merge? =
      (q.solutionsIn ts).filterMap m.merge? + (q.loop? ts m).toList := by
  refine (Multiset.Nodup.ext (nodup_filterMap_solutionsIn ts (q.bind m) m) (nodup_add_loop? ts q m)).2 fun c => ?_
  rw [mem_filterMap_bind, Multiset.mem_add, mem_filterMap_solutionsIn, Multiset.mem_coe, Option.mem_toList,
    loop?_eq_some_iff]
  constructor
  · rintro ⟨e, hrelates, hstart, hc⟩
    by_cases he : q.isOpen = true → e.1 ∈ Path.nodes ts
    · exact .inl ⟨e, hrelates, he, hc⟩
    · -- Only the row can have put a term outside the triples at an end of the path.
      obtain ⟨hopen, hn⟩ := Classical.not_imp.1 he
      obtain ⟨hsame, hnull⟩ := hrelates.eq_of_notMem hn
      have hloop : e = (e.1, e.1) := Prod.ext rfl hsame.symm
      rw [hloop] at hc
      exact .inr ⟨hopen, Bool.eq_false_iff.2 fun h => hn (hstart h), hnull, e.1, hn, hc⟩
  · rintro (⟨e, hrelates, hstart, hc⟩ | ⟨-, hclosed, hnull, t, -, hc⟩)
    · exact ⟨e, hrelates, fun h => hstart (isOpen_of_bind h), hc⟩
    · exact ⟨(t, t), Path.relates_self hnull t, fun h => absurd h (by simp [hclosed]), hc⟩

end PathPattern

end SparqlAlgebra
