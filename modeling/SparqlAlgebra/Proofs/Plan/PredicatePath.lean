import SparqlAlgebra.Proofs.Plan.FailingSource
import SparqlAlgebra.Proofs.Plan.Merging
import SparqlAlgebra.Proofs.Solution.Bag

/-!
# Paths of a single predicate

A path of a single predicate matches what a triple pattern with this predicate matches. So joining a basic graph pattern
with such a path finds what the pattern finds with the triple pattern appended, as long as both parts have no blank node
in common. The blank nodes of the first part are hidden before the path is joined: a label that occurs in both parts is
two variables in the join and one variable in the longer pattern, which has fewer solutions if it tells pairs apart that
agree otherwise.
-/

namespace SparqlAlgebra

open Solution Stage Join

variable {P : Store → Prop} {c : Scope} {d : Dataset} {r : GraphRef} {st : Store} {source : Flow Solution}

/-- A path of a single predicate has the matches of a triple pattern. -/
theorem PathPattern.matchesIn_iri {ts : List Triple} (hts : ts.Nodup) (x : Slot) (i : Iri) (y : Slot) :
    (PathPattern.mk x (.iri i) y).matchesIn ts = (TriplePattern.mk x (.iri i) y).matchesIn ts := by
  have hmatch : ∀ t : Triple, (TriplePattern.mk x (.iri i) y).match? t =
      if t.predicate = i then (PathPattern.mk x (.iri i) y).match? (t.subject.toTerm, t.object) else none := by
    intro t
    by_cases ht : t.predicate = i
    · simp [TriplePattern.match?, PathPattern.match?, IriSlot.match?, ht]
    · simp [TriplePattern.match?, IriSlot.match?, ht, Ne.symm ht]
  refine (Multiset.Nodup.ext (nodup_matchesIn ts _) (SparqlAlgebra.nodup_matchesIn hts)).2 fun m => ?_
  rw [mem_matchesIn rfl, SparqlAlgebra.mem_matchesIn]
  simp only [hmatch, Option.ite_none_right_eq_some]
  constructor
  · rintro ⟨e, ⟨t, ht, hsubject, hpredicate, hobject⟩, hm⟩
    refine ⟨t, ht, hpredicate, ?_⟩
    rwa [hsubject, hobject]
  · rintro ⟨t, ht, hpredicate, hm⟩
    exact ⟨_, ⟨t, ht, rfl, hpredicate, rfl⟩, hm⟩

/-! ## Hiding before a join and afterwards -/

namespace Solution

variable {X M : Multiset Solution} {a m b : Solution} {first last both : List Variable}

/-- A join with some variables hidden, pair by pair. -/
theorem map_hide_join (A B : Multiset Solution) (vs : List Variable) :
    (join A B).map (HiddenVariable.hide vs) =
      (A ×ˢ B).filterMap fun e => (e.1.merge? e.2).map (HiddenVariable.hide vs) := by
  have hproduct : A ×ˢ B = A.bind fun a => B.map (Prod.mk a) := rfl
  rw [join, Multiset.map_bind, hproduct, Multiset.filterMap_bind]
  refine Multiset.bind_congr fun a _ => ?_
  rw [Multiset.map_filterMap, Multiset.filterMap_map]
  rfl

/-- The merge of a pair once some variables have been hidden in its first part, with others hidden in the merge. -/
def mergeHidden? (first last : List Variable) (e : Solution × Solution) : Option Solution :=
  ((HiddenVariable.hide first e.1).merge? e.2).map (HiddenVariable.hide last)

/-- Hiding variables before and after a join is merging with the first ones hidden, and then hiding the others. -/
theorem map_hide_join_map_hide (A B : Multiset Solution) (first last : List Variable) :
    (join (A.map (HiddenVariable.hide first)) B).map (HiddenVariable.hide last) =
      (A ×ˢ B).filterMap (mergeHidden? first last) := by
  have hproduct : A ×ˢ B = A.bind fun a => B.map (Prod.mk a) := rfl
  rw [join, Multiset.map_bind, Multiset.bind_map, hproduct, Multiset.filterMap_bind]
  refine Multiset.bind_congr fun a _ => ?_
  rw [Multiset.map_filterMap, Multiset.filterMap_map]
  rfl

/-- Variables that the second part does not bind, or that are hidden in the end, may be hidden before a merge. -/
theorem mergeHidden?_of_merge? (hboth : ∀ v, v ∈ both ↔ v ∈ first ∨ v ∈ last)
    (hm : ∀ v ∈ first, m.binds v = true → v ∈ last) (h : (a.merge? m).map (HiddenVariable.hide both) = some b) :
    mergeHidden? first last (a, m) = some b := by
  obtain ⟨c, hc, rfl⟩ := Option.map_eq_some_iff.1 h
  obtain ⟨hagree, hget⟩ := merge?_eq_some_iff.1 hc
  have hmerge : (HiddenVariable.hide first a).merge? m = some ((HiddenVariable.hide first a).union m) := by
    refine merge?_eq_some_iff.2 ⟨fun v t u ha hm => ?_, fun v => get?_union⟩
    rw [HiddenVariable.get?_hide] at ha
    split at ha
    · cases ha
    · exact hagree v t u ha hm
  rw [mergeHidden?, hmerge, Option.map_some, Option.some.injEq]
  refine ext_get? fun v => ?_
  simp only [HiddenVariable.get?_hide, get?_union, hget, hboth]
  by_cases hlast : v ∈ last
  · simp [hlast]
  · by_cases hfirst : v ∈ first
    · have hnone : m.get? v = none := by
        cases hv : m.get? v with
        | none => rfl
        | some t => exact absurd (hm v hfirst (binds_iff.2 ⟨t, hv⟩)) hlast
      simp [hlast, hfirst, hnone]
    · simp [hlast, hfirst]

/-- Hiding some variables only after the join loses rows, but adds none. -/
theorem map_hide_join_le (hboth : ∀ v, v ∈ both ↔ v ∈ first ∨ v ∈ last)
    (hM : ∀ m ∈ M, ∀ v ∈ first, m.binds v = true → v ∈ last) :
    (join X M).map (HiddenVariable.hide both) ≤
      (join (X.map (HiddenVariable.hide first)) M).map (HiddenVariable.hide last) := by
  rw [map_hide_join, map_hide_join_map_hide]
  exact filterMap_le_filterMap fun e he b hb => mergeHidden?_of_merge? hboth (hM e.2 (Multiset.mem_product.1 he).2) hb

/-- Hiding variables of the first part before a join adds nothing if and only if they tell no pair apart that agrees
otherwise. -/
theorem map_hide_join_eq_iff (hboth : ∀ v, v ∈ both ↔ v ∈ first ∨ v ∈ last)
    (hM : ∀ m ∈ M, ∀ v ∈ first, m.binds v = true → v ∈ last) :
    (join X M).map (HiddenVariable.hide both) =
        (join (X.map (HiddenVariable.hide first)) M).map (HiddenVariable.hide last) ↔
      ∀ a ∈ X, ∀ m ∈ M, (HiddenVariable.hide first a).isCompatible m = true → a.isCompatible m = true := by
  have hextends : ∀ e ∈ X ×ˢ M, ∀ b, (e.1.merge? e.2).map (HiddenVariable.hide both) = some b →
      mergeHidden? first last e = some b :=
    fun e he b hb => mergeHidden?_of_merge? hboth (hM e.2 (Multiset.mem_product.1 he).2) hb
  have hpair : ∀ e ∈ X ×ˢ M, (e.1.merge? e.2).map (HiddenVariable.hide both) = mergeHidden? first last e ↔
      ((HiddenVariable.hide first e.1).isCompatible e.2 = true → e.1.isCompatible e.2 = true) := by
    intro e he
    by_cases hc : e.1.isCompatible e.2 = true
    · have hsome : (e.1.merge? e.2).map (HiddenVariable.hide both) =
          some (HiddenVariable.hide both (e.1.union e.2)) := by
        rw [merge?, if_pos hc, Option.map_some]
      rw [hsome, hextends e he _ hsome]
      exact iff_of_true rfl fun _ => hc
    · by_cases hh : (HiddenVariable.hide first e.1).isCompatible e.2 = true <;> simp [mergeHidden?, merge?, hc, hh]
  rw [map_hide_join, map_hide_join_map_hide, filterMap_eq_filterMap_iff hextends, forall₂_congr hpair]
  constructor
  · exact fun h a ha m hm => h (a, m) (Multiset.mem_product.2 ⟨ha, hm⟩)
  · exact fun h e he => h e.1 (Multiset.mem_product.1 he).1 e.2 (Multiset.mem_product.1 he).2

/-- Hidden variables that the second part does not bind tell nothing apart. -/
theorem isCompatible_of_hide (hm : ∀ v ∈ first, m.binds v = false)
    (h : (HiddenVariable.hide first a).isCompatible m = true) : a.isCompatible m = true := by
  rw [isCompatible_iff] at h ⊢
  intro v t u ha hmv
  refine h v t u ?_ hmv
  have hv : v ∉ first := fun hv => by simpa [binds, hmv] using hm v hv
  rw [HiddenVariable.get?_hide, if_neg hv, ha]

end Solution

/-! ## The triple pattern and the path -/

variable {ps : List TriplePattern} {x y : Slot} {i : Iri}

namespace HiddenVariable

/-- The blank nodes of one more triple pattern are those at its ends. -/
theorem mem_ofPatterns_append (ps : List TriplePattern) (x : Slot) (i : Iri) (y : Slot) (v : Variable) :
    v ∈ ofPatterns (ps ++ [⟨x, .iri i, y⟩]) ↔ v ∈ ofPatterns ps ∨ v ∈ ofSlots [x, y] := by
  simp [ofPatterns, ofSlots]

/-- A match binds a variable of an end or one that stands for a blank node there. -/
theorem mem_ofSlots_of_match {ts : List Triple} {m : Solution} {v : Variable}
    (hx : x.var? ≠ some v) (hy : y.var? ≠ some v)
    (hm : m ∈ (replace ⟨x, .iri i, y⟩).matchesIn ts) (hv : m.binds v = true) : v ∈ ofSlots [x, y] := by
  have hvars := ((mem_matchesIn_iff.1 hm).1 v).1 hv
  have hsubject : x ∈ [x, y] := List.mem_cons_self
  have hobject : y ∈ [x, y] := List.mem_cons_of_mem x List.mem_cons_self
  rcases TriplePattern.mem_vars.1 hvars with hs | hp | ho
  · exact (var?_replaceSlot hsubject hs).resolve_left hx
  · cases hp
  · exact (var?_replaceSlot hobject ho).resolve_left hy

end HiddenVariable

/-- A triple pattern at the end of a basic graph pattern is joined with what comes before. -/
theorem solutions_append_singleton (ts : List Triple) (ps : List TriplePattern) (p : TriplePattern) :
    solutions ts (ps ++ [p]) = join (solutions ts ps) (p.matchesIn ts) := by
  rw [solutions_append, solutions_cons, solutions_nil, join_empty]

/-- A path of a single predicate is joined with the matches of the triple pattern. -/
theorem Plan.means_predicate_path (hP : ∀ s, P s → s.dataset = d) (hr : c.activeGraph? d = .ok (some r)) :
    Plan.Means P False c (paths [⟨x, .iri i, y⟩]) fun V =>
      (Solution.join V ((HiddenVariable.replace ⟨x, .iri i, y⟩).matchesIn (r.tripleSet d))).map
        (HiddenVariable.hide (HiddenVariable.ofSlots [x, y])) := by
  have hmatches : (PathPattern.mk x (.iri i) y).hide.matchesIn (r.triples d) =
      (HiddenVariable.replace ⟨x, .iri i, y⟩).matchesIn (r.tripleSet d) := by
    rw [PathPattern.matchesIn_congr (q := (PathPattern.mk x (.iri i) y).hide) rfl fun t => mem_firsts.symm]
    exact PathPattern.matchesIn_iri (r.nodup_tripleSet d) _ _ _
  have hrows : r.pathRows d (PathPattern.mk x (.iri i) y).hide = fun s =>
      ((HiddenVariable.replace ⟨x, .iri i, y⟩).matchesIn (r.tripleSet d)).filterMap s.merge? := by
    funext s
    rw [GraphRef.pathRows_eq rfl, hmatches]
  have hmeans := Plan.means_path_of_activeGraph? hP ⟨x, .iri i, y⟩ hr
  rwa [hrows] at hmeans

namespace Pattern

/-- A basic graph pattern with a triple pattern appended, and the same pattern joined with a path of the predicate. The
predicates are none of the search vocabulary, and no variable of the ends has the name of one that stands for a blank
node of the patterns before. Over a list of rows the join finds all that the longer pattern finds. It finds no more if
and only if no solution of the patterns and match of the path agree only because the blank nodes of the patterns have
been hidden; so if no label occurs in both parts. Over a source with a failure both fail. -/
theorem predicate_path_is_triple (hsearch : ∀ p ∈ ps ++ [⟨x, .iri i, y⟩], SearchPlan.isSearchTriple p = false)
    (hends : ∀ v ∈ HiddenVariable.ofPatterns ps, x.var? ≠ some v ∧ y.var? ≠ some v)
    (hr : c.activeGraph? st.dataset = .ok (some r)) (hbatch : c.settings.hints.batchSize < 2 ^ 64)
    (hkept : st.cache = none ∨
      ToldApart st.dataset
          (c.lookups st.dataset ((Pattern.join (.bgp ps) (.bgp (ps ++ [⟨x, .iri i, y⟩]))).touches c.active)) ∧
        ∀ e ∈ st.kept, Current st.dataset
          (c.lookups st.dataset ((Pattern.join (.bgp ps) (.bgp (ps ++ [⟨x, .iri i, y⟩]))).touches c.active)) e) :
    (∀ rows : List Solution, ∃ together joined : List Solution,
      (Pattern.bgp (ps ++ [⟨x, .iri i, y⟩])).solveOver c st (.ofList rows) = .ok together ∧
      (Pattern.join (.bgp ps) (.path x (.iri i) y)).solveOver c st (.ofList rows) = .ok joined ∧
      together.Subperm joined ∧
      (together.Perm joined ↔
        ∀ a ∈ Solution.join rows (solutions (r.tripleSet st.dataset) (ps.map HiddenVariable.replace)),
          ∀ m ∈ (HiddenVariable.replace ⟨x, .iri i, y⟩).matchesIn (r.tripleSet st.dataset),
            (HiddenVariable.hide (HiddenVariable.ofPatterns ps) a).isCompatible m = true → a.isCompatible m = true) ∧
      ((∀ v ∈ HiddenVariable.ofPatterns ps, v ∉ HiddenVariable.ofSlots [x, y]) → together.Perm joined)) ∧
    ∀ (items : List (Except QueryError Solution)) (e : QueryError), .error e ∈ items → ∃ e₁ e₂,
      (Pattern.bgp (ps ++ [⟨x, .iri i, y⟩])).solveOver c st (.ofItems items) = .error e₁ ∧
      (Pattern.join (.bgp ps) (.path x (.iri i) y)).solveOver c st (.ofItems items) = .error e₂ := by
  obtain ⟨P, hst, hP, hanswers⟩ := exists_answers hkept
  rw [touches] at hanswers
  have hbefore : ∀ p ∈ ps, SearchPlan.isSearchTriple p = false := fun p hp => hsearch p (List.mem_append_left _ hp)
  refine ⟨fun rows => ?_, fun items e he => ?_⟩
  · have hfirst := Plan.means_bgp_of_activeGraph? hP hr hanswers.left.lookedUp hbatch hbefore
    have htogether := Plan.means_bgp_of_activeGraph? hP hr hanswers.right.lookedUp hbatch hsearch
    have hjoined := Plan.means_join hfirst .any (Plan.means_predicate_path (x := x) (i := i) (y := y) hP hr)
    obtain ⟨together, htsolved, htM⟩ := exists_solveOver (p := .bgp (ps ++ [⟨x, .iri i, y⟩]))
      (by rw [plan]; exact htogether) hst rows
    obtain ⟨joined, hjsolved, hjM⟩ := exists_solveOver (p := .join (.bgp ps) (.path x (.iri i) y))
      (by rw [plan, plan, plan]; exact hjoined) hst rows
    rw [List.map_append, List.map_singleton, solutions_append_singleton, ← join_assoc] at htM
    have hboth := HiddenVariable.mem_ofPatterns_append ps x i y
    have hmatch : ∀ m ∈ (HiddenVariable.replace ⟨x, .iri i, y⟩).matchesIn (r.tripleSet st.dataset),
        ∀ v ∈ HiddenVariable.ofPatterns ps, m.binds v = true → v ∈ HiddenVariable.ofSlots [x, y] :=
      fun m hm v hv hbinds => HiddenVariable.mem_ofSlots_of_match (hends v hv).1 (hends v hv).2 hm hbinds
    have hiff := map_hide_join_eq_iff
      (X := Solution.join rows (solutions (r.tripleSet st.dataset) (ps.map HiddenVariable.replace))) hboth hmatch
    rw [← htM, ← hjM, Multiset.coe_eq_coe] at hiff
    refine ⟨together, joined, htsolved, hjsolved, ?_, hiff, fun hlabels => hiff.2 fun a _ m hm => ?_⟩
    · rw [← Multiset.coe_le, htM, hjM]
      exact map_hide_join_le hboth hmatch
    · exact isCompatible_of_hide fun v hv => Bool.eq_false_iff.2 fun hbinds => hlabels v hv (hmatch m hm v hv hbinds)
  · have hfails : Fails P (Stage.ofItems items : Flow Solution) := fails_ofItems he
    have hfirst := Plan.handsOn_bgp hP hr hanswers.left.lookedUp hbefore
    obtain ⟨e₁, h₁⟩ := (Plan.handsOn_bgp hP hr hanswers.right.lookedUp hsearch).collect hfails hst
    obtain ⟨e₂, h₂⟩ := (Plan.handsOn_join hfirst (Plan.handsOn_path hP hr ⟨x, .iri i, y⟩)).collect hfails hst
    refine ⟨e₁, e₂, ?_, ?_⟩
    · rwa [solveOver, plan]
    · rwa [solveOver, plan, plan, plan]

/-- A blank node in both parts, of which one triple matches the pattern and another one the path: the longer pattern has
no solution, the join has one, which is of two blank nodes. -/
theorem predicate_path_is_triple_label :
    let knows : Iri := ⟨"http://example.com/knows"⟩
    let likes : Iri := ⟨"http://example.com/likes"⟩
    let b : Slot := .term (.blank ⟨"b"⟩)
    let y : Variable := ⟨"y"⟩
    let z : Variable := ⟨"z"⟩
    let bob : Term := .iri ⟨"http://example.com/b"⟩
    let dan : Term := .iri ⟨"http://example.com/d"⟩
    let graph : Graph := ((Graph.empty defaultGraphIri ⟨false, true⟩).insert
      ⟨.iri ⟨"http://example.com/a"⟩, knows, bob⟩).insert ⟨.iri ⟨"http://example.com/c"⟩, likes, dan⟩
    let st : Store := ⟨⟨graph, [], fun _ => ⟨false, true⟩⟩, none, 0⟩
    let c : Scope := ⟨⟨.vectorized, ⟨2, .asWritten, true⟩⟩, ⟨[], .iri knows⟩, .default, none⟩
    let ps : List TriplePattern := [⟨b, .iri knows, .var y⟩]
    let row : Solution := (Solution.empty.insert y bob).insert z dan
    (∀ p ∈ ps ++ [⟨b, .iri likes, .var z⟩], SearchPlan.isSearchTriple p = false) ∧
      (∀ v ∈ HiddenVariable.ofPatterns ps, b.var? ≠ some v ∧ (Slot.var z).var? ≠ some v) ∧
      c.activeGraph? st.dataset = .ok (some (.single .default)) ∧ c.settings.hints.batchSize < 2 ^ 64 ∧
      (st.cache = none ∨
        ToldApart st.dataset (c.lookups st.dataset
            ((Pattern.join (.bgp ps) (.bgp (ps ++ [⟨b, .iri likes, .var z⟩]))).touches c.active)) ∧
          ∀ e ∈ st.kept, Current st.dataset (c.lookups st.dataset
            ((Pattern.join (.bgp ps) (.bgp (ps ++ [⟨b, .iri likes, .var z⟩]))).touches c.active)) e) ∧
      (Pattern.bgp (ps ++ [⟨b, .iri likes, .var z⟩])).solveOver c st (.ofList [.empty]) = .ok [] ∧
      (Pattern.join (.bgp ps) (.path b (.iri likes) (.var z))).solveOver c st (.ofList [.empty]) = .ok [row] ∧
      ∃ v ∈ HiddenVariable.ofPatterns ps, v ∈ HiddenVariable.ofSlots [b, .var z] := by
  intro knows likes b y z bob dan graph st c ps row
  have hsearch : ∀ p ∈ ps ++ [⟨b, .iri likes, .var z⟩], SearchPlan.isSearchTriple p = false := by decide
  have hends : ∀ v ∈ HiddenVariable.ofPatterns ps, b.var? ≠ some v ∧ (Slot.var z).var? ≠ some v := by decide
  have hr : c.activeGraph? st.dataset = .ok (some (.single .default)) := rfl
  have hbatch : c.settings.hints.batchSize < 2 ^ 64 := by decide
  have hkept : st.cache = none ∨
      ToldApart st.dataset (c.lookups st.dataset
          ((Pattern.join (.bgp ps) (.bgp (ps ++ [⟨b, .iri likes, .var z⟩]))).touches c.active)) ∧
        ∀ e ∈ st.kept, Current st.dataset (c.lookups st.dataset
          ((Pattern.join (.bgp ps) (.bgp (ps ++ [⟨b, .iri likes, .var z⟩]))).touches c.active)) e := .inl rfl
  have htogether : (Pattern.bgp (ps ++ [⟨b, .iri likes, .var z⟩])).solveOver c st (.ofList [.empty]) = .ok [] := by
    decide +kernel
  have hjoined : (Pattern.join (.bgp ps) (.path b (.iri likes) (.var z))).solveOver c st (.ofList [.empty]) =
      .ok [row] := by decide +kernel
  obtain ⟨together, joined, ht, hj, -, -, hlabels⟩ :=
    (predicate_path_is_triple hsearch hends hr hbatch hkept).1 [.empty]
  rw [htogether] at ht
  rw [hjoined] at hj
  cases ht
  cases hj
  refine ⟨hsearch, hends, hr, hbatch, hkept, htogether, hjoined, ?_⟩
  -- Without a label in both parts the bags would be the same.
  by_contra hnone
  push Not at hnone
  simpa using hlabels hnone

end Pattern

end SparqlAlgebra
