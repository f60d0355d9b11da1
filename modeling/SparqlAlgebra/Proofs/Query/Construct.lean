import Mathlib.Data.List.Nodup
import Mathlib.Data.List.ProdSigma
import Mathlib.Data.List.ReduceOption
import Mathlib.Data.List.Sigma
import Mathlib.Data.Set.Pairwise.List
import SparqlAlgebra.Proofs.Plan.Build
import SparqlAlgebra.Proofs.Update.Templates
import SparqlAlgebra.Query.Evaluate

/-!
# Constructed triples

The triples of a constructed answer, counted. A triple without a blank node at an end is there once if any solution makes
it of the template. A triple with one is there as often as it is made, so the answer is free of repetitions if and only
if no such triple is made twice.
-/

namespace SparqlAlgebra

/-- A solution makes a triple of a pattern: each place of the pattern stands for what the triple has there. There is no
such triple if a variable is unbound, or if a literal would be the subject, or anything but an IRI the predicate. -/
structure TriplePattern.Makes (r : Renaming) (s : Solution) (p : TriplePattern) (t : Triple) : Prop where
  /-- The subject stands for that of the triple. -/
  subject : p.subject.Stands r s t.subject.toTerm
  /-- The predicate stands for that of the triple. -/
  predicate : p.predicate.Stands s t.predicate
  /-- The object stands for that of the triple. -/
  object : p.object.Stands r s t.object

/-- A triple pattern is turned into a triple by terms at its places that may stand there. -/
theorem TriplePattern.instantiate?_eq_some_iff {r : Renaming} {s : Solution} {p : TriplePattern} {t : Triple} :
    p.instantiate? r s = some t ↔ p.Makes r s t := by
  obtain ⟨subject, predicate, object⟩ := t
  have hmakes : p.Makes r s ⟨subject, predicate, object⟩ ↔
      p.subject.Stands r s subject.toTerm ∧ p.predicate.Stands s predicate ∧ p.object.Stands r s object :=
    ⟨fun h => ⟨h.subject, h.predicate, h.object⟩, fun h => ⟨h.1, h.2.1, h.2.2⟩⟩
  rw [hmakes, ← Slot.instantiate?_eq_some_iff, ← Slot.instantiate?_eq_some_iff, ← IriSlot.instantiate?_eq_some_iff,
    instantiate?]
  simp [Option.bind_eq_some_iff, Term.toResource?_eq_some_iff]

namespace Template

variable {template : List TriplePattern} {nodes : List BlankNode} {seed : Nat} {rows : List Solution}

/-! ## How often a triple is kept -/

/-- How often a triple of a list is kept, if those in a set were kept before. -/
def timesKept (seen : KeySet Triple) (ts : List Triple) (t : Triple) : Nat :=
  if alwaysNew t then ts.count t else if seen.contains t then 0 else if t ∈ ts then 1 else 0

/-- Without any triples none is kept. -/
theorem timesKept_nil (seen : KeySet Triple) (t : Triple) : timesKept seen [] t = 0 := by
  simp [timesKept]

/-- Keeping the triples of one list after those of another, with what has been kept by then in the set. -/
theorem timesKept_append {seen later : KeySet Triple} {ts us : List Triple}
    (hlater : ∀ t, later.contains t = true ↔ seen.contains t = true ∨ alwaysNew t = false ∧ t ∈ ts) (t : Triple) :
    timesKept seen ts t + timesKept later us t = timesKept seen (ts ++ us) t := by
  unfold timesKept
  by_cases hnew : alwaysNew t = true
  · simp only [hnew, if_true, List.count_append]
  · have hplain : alwaysNew t = false := by simpa using hnew
    have hl := hlater t
    by_cases hseen : seen.contains t = true
    · simp [hplain, hseen, hl.2 (.inl hseen)]
    · by_cases ht : t ∈ ts
      · simp [hplain, hseen, ht, hl.2 (.inr ⟨hplain, ht⟩)]
      · have hnone : ¬ later.contains t = true := fun h => (hl.1 h).elim hseen fun h => ht h.2
        simp [hplain, hseen, ht, hnone]

/-- What is kept of one instance, and what has been met after it. -/
theorem newTriples_spec (seen : KeySet Triple) (ts : List Triple) :
    (∀ t, (newTriples seen ts).2.contains t = true ↔ seen.contains t = true ∨ alwaysNew t = false ∧ t ∈ ts) ∧
      ∀ t, (newTriples seen ts).1.count t = timesKept seen ts t := by
  induction ts with
  | nil => exact ⟨fun t => by simp [newTriples], fun t => by simp [newTriples, timesKept_nil]⟩
  | cons u us ih =>
    obtain ⟨hmet, hkept⟩ := ih
    rw [newTriples]
    rcases hr : newTriples seen us with ⟨rest, met⟩
    rw [hr] at hmet hkept
    simp only at hmet hkept ⊢
    by_cases hnew : alwaysNew u = true
    · rw [if_pos hnew]
      refine ⟨fun t => ?_, fun t => ?_⟩
      · rw [hmet, List.mem_cons]
        grind
      · rw [List.count_cons, hkept, timesKept, timesKept, List.count_cons]
        grind
    · rw [if_neg hnew]
      by_cases hu : met.contains u = true
      · rw [if_pos hu]
        have hbefore := (hmet u).1 hu
        refine ⟨fun t => ?_, fun t => ?_⟩
        · rw [hmet, List.mem_cons]
          grind
        · rw [hkept, timesKept, timesKept, List.count_cons]
          grind
      · rw [if_neg hu]
        have hbefore := mt (hmet u).2 hu
        refine ⟨fun t => ?_, fun t => ?_⟩
        · rw [KeySet.contains_insert, hmet, List.mem_cons]
          grind
        · rw [List.count_cons, hkept, timesKept, timesKept, List.count_cons]
          grind

/-- The triples of all instances, with all repetitions. -/
def made (template : List TriplePattern) (nodes : List BlankNode) (seed : Nat) (rows : List Solution) : List Triple :=
  (rows.zipIdx seed).flatMap fun x => template.filterMap (·.instantiate? (.fresh nodes x.2) x.1)

/-- How often each triple is among those of all instances. -/
theorem count_instancesFrom (seen : KeySet Triple) (t : Triple) :
    (instancesFrom template nodes seed seen [] rows).count t = timesKept seen (made template nodes seed rows) t := by
  induction rows generalizing seed seen with
  | nil => simp [instancesFrom, made, timesKept_nil]
  | cons s ss ih =>
    have hfirst := newTriples_spec seen (template.filterMap (·.instantiate? (.fresh nodes seed) s))
    have hmade : made template nodes seed (s :: ss) =
        template.filterMap (·.instantiate? (.fresh nodes seed) s) ++ made template nodes (seed + 1) ss := by
      rw [made, List.zipIdx_cons, List.flatMap_cons, made]
    rw [hmade, ← timesKept_append hfirst.1, ← hfirst.2, ← ih]
    simp only [instancesFrom]
    rw [instancesFrom_eq, List.count_append]
    simp

/-- The result has a triple as often as it is kept. -/
theorem count_triples (t : Triple) :
    (triples template seed rows).count t =
      timesKept .empty (made template (template.flatMap (·.blanks)) seed rows) t :=
  count_instancesFrom .empty t

/-- The result has all triples that are made, and no others. -/
theorem mem_triples {t : Triple} :
    t ∈ triples template seed rows ↔ t ∈ made template (template.flatMap (·.blanks)) seed rows := by
  rw [← List.count_pos_iff, count_triples, timesKept]
  split
  · exact List.count_pos_iff
  · by_cases ht : t ∈ made template (template.flatMap (·.blanks)) seed rows <;> simp [ht]

/-- Only triples with a blank node at an end can be there more than once. -/
theorem nodup_triples_iff :
    (triples template seed rows).Nodup ↔
      ((made template (template.flatMap (·.blanks)) seed rows).filter alwaysNew).Nodup := by
  rw [List.nodup_iff_count_le_one, List.nodup_iff_count_le_one]
  refine forall_congr' fun t => ?_
  rw [count_triples, timesKept]
  by_cases hnew : alwaysNew t = true
  · rw [if_pos hnew, List.count_filter hnew]
  · have hnone : t ∉ (made template (template.flatMap (·.blanks)) seed rows).filter alwaysNew := fun h =>
      hnew (List.mem_filter.1 h).2
    rw [if_neg hnew, List.count_eq_zero_of_not_mem hnone]
    simp
    split <;> simp

/-! ## Where a triple is made -/

/-- The solution in one place of a list makes a triple of the pattern in one place of a template. -/
def MakesAt (template : List TriplePattern) (node : Nat → Renaming) (rows : List Solution) (i k : Nat) (t : Triple) :
    Prop :=
  ∃ s p, rows[i]? = some s ∧ template[k]? = some p ∧ p.Makes (node i) s t

/-- Each solution with each pattern, in their places. -/
def places (template : List TriplePattern) (rows : List Solution) : List ((Solution × Nat) × TriplePattern × Nat) :=
  rows.zipIdx ×ˢ template.zipIdx

/-- Each pattern is used for each row once. -/
theorem nodup_places : (places template rows).Nodup :=
  (List.Nodup.of_map _ (List.nodup_zipIdx_map_snd rows)).product (List.Nodup.of_map _ (List.nodup_zipIdx_map_snd template))

/-- The triple that is made in a place. -/
def madeAt? (nodes : List BlankNode) (seed : Nat) (x : (Solution × Nat) × TriplePattern × Nat) : Option Triple :=
  x.2.1.instantiate? (.fresh nodes (seed + x.1.2)) x.1.1

/-- The triples that are made are those at each place where one can be made. -/
theorem made_eq : made template nodes seed rows = (places template rows).filterMap (madeAt? nodes seed) := by
  have hpattern : ∀ f : TriplePattern → Option Triple,
      template.filterMap f = template.zipIdx.filterMap fun x => f x.1 := fun f => by
    conv_lhs => rw [← List.zipIdx_map_fst 0 template]
    rw [List.filterMap_map]
    rfl
  have hplaces : places template rows = rows.zipIdx.flatMap fun x => template.zipIdx.map (Prod.mk x) := rfl
  rw [made, List.zipIdx_eq_map_add, List.flatMap_map, hplaces, List.filterMap_flatMap]
  refine List.flatMap_congr fun x _ => ?_
  rw [List.filterMap_map, hpattern]
  rfl

/-- The triples that are made are those that a row makes of a pattern with its own blank nodes. -/
theorem exists_madeAt?_iff {i k : Nat} {t : Triple} :
    (∃ s p, ((s, i), (p, k)) ∈ places template rows ∧ madeAt? nodes seed ((s, i), (p, k)) = some t) ↔
      MakesAt template (fun i => .fresh nodes (seed + i)) rows i k t := by
  simp only [places, List.mem_product, List.mem_zipIdx_iff_getElem?, madeAt?,
    TriplePattern.instantiate?_eq_some_iff, MakesAt, and_assoc]

/-- A triple is made if some row makes it of some pattern with its own blank nodes. -/
theorem mem_made {t : Triple} :
    t ∈ made template nodes seed rows ↔ ∃ i k, MakesAt template (fun i => .fresh nodes (seed + i)) rows i k t := by
  simp only [made_eq, List.mem_filterMap, ← exists_madeAt?_iff]
  constructor
  · rintro ⟨⟨⟨s, i⟩, p, k⟩, hx, ht⟩
    exact ⟨i, k, s, p, hx, ht⟩
  · rintro ⟨i, k, s, p, hx, ht⟩
    exact ⟨_, hx, ht⟩

/-- Two places do not make the same triple with a blank node at an end. -/
def Differ (nodes : List BlankNode) (seed : Nat) (x y : (Solution × Nat) × TriplePattern × Nat) : Prop :=
  ∀ t, madeAt? nodes seed x = some t → alwaysNew t = true → madeAt? nodes seed y ≠ some t

/-- It does not matter which of two places comes first. -/
instance : Std.Symm (Differ nodes seed) := ⟨fun _ _ h t hy ht hx => h t hx ht hy⟩

/-- The triples with blank nodes are made once each if and only if no two places make the same one. -/
theorem nodup_filter_made_iff_differ :
    ((made template nodes seed rows).filter alwaysNew).Nodup ↔ (places template rows).Pairwise (Differ nodes seed) := by
  rw [List.Nodup, made_eq, List.filter_filterMap, List.pairwise_filterMap]
  refine List.Pairwise.iff fun {x y} => ?_
  simp only [Option.filter_eq_some_iff]
  exact ⟨fun h t hx ht hy => h t ⟨hx, ht⟩ t ⟨hy, ht⟩ rfl, fun h t hx u hy => by rintro rfl; exact h t hx.1 hx.2 hy.1⟩

/-- No triple with a blank node at an end is made in two places. -/
theorem nodup_filter_made :
    ((made template nodes seed rows).filter alwaysNew).Nodup ↔
      ∀ t, alwaysNew t = true → ∀ i j k l, MakesAt template (fun i => .fresh nodes (seed + i)) rows i k t →
        MakesAt template (fun i => .fresh nodes (seed + i)) rows j l t → i = j ∧ k = l := by
  rw [nodup_filter_made_iff_differ, ← nodup_places.pairwise_coe]
  constructor
  · intro h t ht i j k l hi hj
    obtain ⟨s, p, hx, hxt⟩ := exists_madeAt?_iff.2 hi
    obtain ⟨s', p', hy, hyt⟩ := exists_madeAt?_iff.2 hj
    by_contra hne
    refine h hx hy (fun he => hne ?_) t hxt ht hyt
    injection he with h₁ h₂
    exact ⟨congrArg Prod.snd h₁, congrArg Prod.snd h₂⟩
  · rintro h ⟨⟨s, i⟩, p, k⟩ hx ⟨⟨s', j⟩, p', l⟩ hy hne t hxt ht hyt
    obtain ⟨rfl, rfl⟩ := h t ht i j k l (exists_madeAt?_iff.1 ⟨s, p, hx, hxt⟩) (exists_madeAt?_iff.1 ⟨s', p', hy, hyt⟩)
    simp only [Set.mem_ofPred_eq, places, List.mem_product, List.mem_zipIdx_iff_getElem?] at hx hy
    obtain rfl : s = s' := Option.some.inj (hx.1.symm.trans hy.1)
    obtain rfl : p = p' := Option.some.inj (hx.2.symm.trans hy.2)
    exact hne rfl

/-- Where no solution binds a blank node, each blank node at an end of a triple tells the solution. -/
theorem MakesAt.solution_eq {node : Nat → Renaming} (hnode : FreshNodes (template.map (⟨·, .default⟩)) seed node)
    (hrows : ∀ s ∈ rows, ∀ v b, s.get? v ≠ some (.blank b)) {t : Triple} (ht : alwaysNew t = true) {i j k l : Nat}
    (hi : MakesAt template node rows i k t) (hj : MakesAt template node rows j l t) : i = j := by
  -- a place that stands for a blank node holds one of the template
  have hplace : ∀ {n s} {slot : Slot} {x : BlankNode}, rows[n]? = some s → slot.Stands (node n) s (.blank x) →
      ∃ b, slot.blank? = some b ∧ node n b = x := by
    rintro n s slot x hs hx
    generalize hterm : Term.blank x = u at hx
    cases hx with
    | var h => exact absurd (hterm ▸ h) (hrows s (List.mem_of_getElem? hs) _ x)
    | term u =>
      cases u with
      | blank b => exact ⟨b, rfl, (Term.blank.inj hterm).symm⟩
      | iri _ => cases hterm
      | literal _ => cases hterm
  have hsame : ∀ {p : TriplePattern} {a b : BlankNode}, p ∈ template → a ∈ p.blanks → node i a = node j b → i = j :=
    fun hp ha h => (hnode.inj _ (List.mem_map_of_mem hp) _ ha _ i j h).1
  obtain ⟨s, p, hs, hp, hmakes⟩ := hi
  obtain ⟨s', p', hs', -, hmakes'⟩ := hj
  have hp : p ∈ template := List.mem_of_getElem? hp
  rcases Bool.or_eq_true_iff.1 ht with hsubject | hobject
  · obtain ⟨x, hx⟩ : ∃ x, t.subject.toTerm = .blank x := by
      cases hx : t.subject.toTerm <;> simp_all [Term.isBlank]
    obtain ⟨a, ha, hax⟩ := hplace hs (hx ▸ hmakes.subject)
    obtain ⟨b, -, hbx⟩ := hplace hs' (hx ▸ hmakes'.subject)
    exact hsame hp (List.reduceOption_mem_iff.2 (by simp [ha])) (hax.trans hbx.symm)
  · obtain ⟨x, hx⟩ : ∃ x, t.object = .blank x := by
      cases hx : t.object <;> simp_all [Term.isBlank]
    obtain ⟨a, ha, hax⟩ := hplace hs (hx ▸ hmakes.object)
    obtain ⟨b, -, hbx⟩ := hplace hs' (hx ▸ hmakes'.object)
    exact hsame hp (List.reduceOption_mem_iff.2 (by simp [ha])) (hax.trans hbx.symm)

end Template

namespace Query

/-- A query that constructs triples does what one for the solutions does, and then makes the instances. -/
theorem run_construct {c : Scope} {p : Pattern} {choice : Option QueryDataset} {template : List TriplePattern}
    {vs : List Variable} {rows : List Solution} {st u : Store}
    (h : (evaluate c ⟨.select, p, choice⟩).run st = (.ok (.solutions vs rows), u)) :
    ((evaluate c ⟨.construct template, p, choice⟩).run st).1 = .ok (.graph (Template.triples template u.seed rows)) := by
  rw [evaluate] at h ⊢
  obtain ⟨stage, t, hstage, h⟩ := Build.run_bind_eq_ok_iff.1 h
  obtain ⟨found, v, hfound, h⟩ := Build.run_bind_eq_ok_iff.1 h
  have hstage' : (Query.stage c ⟨.construct template, p, choice⟩).run st = (.ok stage, t) := hstage
  rw [Build.run_bind_ok hstage']
  simp only
  rw [Build.run_bind_ok hfound]
  cases h
  rfl

/-- Once the solutions are there, the triples are constructed. They are exactly those that some solution makes of the
template, with a blank node of its own for each blank node of the template and each solution. No triple is there twice
if and only if no triple with a blank node at an end is made twice. This is so if no solution binds a blank node and no
solution by itself makes such a triple twice. -/
theorem construct_graph {c : Scope} {p : Pattern} {choice : Option QueryDataset} {vs : List Variable}
    {rows : List Solution} {st u : Store} (template : List TriplePattern)
    (h : (evaluate c ⟨.select, p, choice⟩).run st = (.ok (.solutions vs rows), u)) :
    ∃ node ts, FreshNodes (template.map (⟨·, .default⟩)) u.seed node ∧
      ((evaluate c ⟨.construct template, p, choice⟩).run st).1 = .ok (.graph ts) ∧
      (∀ t, t ∈ ts ↔ ∃ i k, Template.MakesAt template node rows i k t) ∧
      (ts.Nodup ↔ ∀ t, Template.alwaysNew t = true → ∀ i j k l, Template.MakesAt template node rows i k t →
        Template.MakesAt template node rows j l t → i = j ∧ k = l) ∧
      ((∀ s ∈ rows, ∀ v b, s.get? v ≠ some (.blank b)) →
        (∀ t, Template.alwaysNew t = true → ∀ i k l, Template.MakesAt template node rows i k t →
          Template.MakesAt template node rows i l t → k = l) → ts.Nodup) := by
  have hblanks : (template.map fun p => (⟨p, .default⟩ : QuadPattern)).flatMap (·.triple.blanks) =
      template.flatMap (·.blanks) := by rw [List.flatMap_map]
  have hnode := freshNodes (template.map fun p => (⟨p, .default⟩ : QuadPattern)) u.seed
  rw [hblanks] at hnode
  have hnodup : (Template.triples template u.seed rows).Nodup ↔ _ :=
    Template.nodup_triples_iff.trans Template.nodup_filter_made
  refine ⟨_, _, hnode, run_construct h, fun t => Template.mem_triples.trans Template.mem_made, hnodup, fun hrows hown => ?_⟩
  refine hnodup.2 fun t ht i j k l hi hj => ?_
  obtain rfl : i = j := hi.solution_eq hnode hrows ht hj
  exact ⟨rfl, hown t ht i k l hi hj⟩

/-- A node of the data with two names: the triple that says so is constructed twice. -/
theorem construct_graph_two_names :
    let name : Iri := ⟨"http://example.com/name"⟩
    let named : Iri := ⟨"http://example.com/named"⟩
    let x : Variable := ⟨"x"⟩
    let n : Variable := ⟨"n"⟩
    let node : Resource := .blank ⟨"b"⟩
    let data := ((Graph.empty defaultGraphIri ⟨true, true⟩).insert ⟨node, name, .iri ⟨"http://example.com/a"⟩⟩).insert
      ⟨node, name, .iri ⟨"http://example.com/c"⟩⟩
    let st : Store := ⟨⟨data, [], fun _ => ⟨true, true⟩⟩, none, 0⟩
    let c : Scope := ⟨⟨.streaming, ⟨2, .structural, true⟩⟩, ⟨[], .iri name⟩, .default, none⟩
    let p : Pattern := .bgp [⟨.var x, .iri name, .var n⟩]
    let template : List TriplePattern := [⟨.var x, .iri named, .term (.iri named)⟩]
    let rows : List Solution := [(Solution.empty.insert x (.blank ⟨"b"⟩)).insert n (.iri ⟨"http://example.com/a"⟩),
      (Solution.empty.insert x (.blank ⟨"b"⟩)).insert n (.iri ⟨"http://example.com/c"⟩)]
    let u := ((evaluate c ⟨.select, p, none⟩).run st).2
    (evaluate c ⟨.select, p, none⟩).run st = (.ok (.solutions [x, n] rows), u) ∧
      ∃ node ts, FreshNodes (template.map (⟨·, .default⟩)) u.seed node ∧
        ((evaluate c ⟨.construct template, p, none⟩).run st).1 = .ok (.graph ts) ∧
        (∀ t, t ∈ ts ↔ ∃ i k, Template.MakesAt template node rows i k t) ∧ ¬ ts.Nodup := by
  intro name named x n node data st c p template rows u
  have h : (evaluate c ⟨.select, p, none⟩).run st = (.ok (.solutions [x, n] rows), u) :=
    Prod.ext (by decide +kernel) rfl
  obtain ⟨node, ts, hnode, hts, hmem, hnodup, -⟩ := construct_graph template h
  refine ⟨h, node, ts, hnode, hts, hmem, fun hn => ?_⟩
  have hfirst : Template.MakesAt template node rows 0 0 ⟨.blank ⟨"b"⟩, named, .iri named⟩ :=
    ⟨_, _, rfl, rfl, .var (by decide +kernel), .iri _, .term (.iri named)⟩
  have hsecond : Template.MakesAt template node rows 1 0 ⟨.blank ⟨"b"⟩, named, .iri named⟩ :=
    ⟨_, _, rfl, rfl, .var (by decide +kernel), .iri _, .term (.iri named)⟩
  exact absurd (hnodup.1 hn _ rfl 0 1 0 0 hfirst hsecond).1 (by decide)

end Query

end SparqlAlgebra
